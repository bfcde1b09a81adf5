/-
  RateCounter.Proofs.Settings.Values — reading values and fields of settings.

  For each kind of value: which value a JSON value says, and what is wrong with one that says
  none (`Reads`). Either of the two is so, and never both. Fields are read one after the other
  (`readFields`).
  - `readFields_eq_error_iff`: the first field with a fault is reported, and nothing of those
    behind it.
  - `given_of_setBy`: a part that one field sets has what this field says at the end, or is as it
    was.
-/

import RateCounter.Proofs.Json.Fields
import RateCounter.Settings

namespace RateCounter.Settings

open Json (Given IsText IsWord64)

/-! ## Values -/

/-- What a reader takes a JSON value to say, and which problems it finds. -/
structure Reads {α : Type} (read : Json → Except Problem α) (Says : Json → α → Prop) (Flaw : Json → Problem → Prop) :
    Prop where
  ok_iff : ∀ j a, read j = .ok a ↔ Says j a
  error_iff : ∀ j p, read j = .error p ↔ Flaw j p

inductive WordFlaw : Json → Problem → Prop
  | wrongType {j : Json} : (∀ n, j ≠ .int n) → WordFlaw j (.wrongType j .word64)
  | outOfRange {n : Int} : n < 0 ∨ Word.count64 ≤ n → WordFlaw (.int n) (.outOfRange n .word64)

inductive TextFlaw : Json → Problem → Prop
  | wrongType {j : Json} : (∀ s, j ≠ .text s) → TextFlaw j (.wrongType j .text)

def IsTexts (j : Json) (ss : List String) : Prop := j = .list (ss.map .text)

/-- Of the items of a list the first that is no text is at fault. -/
inductive TextsFlaw : Json → Problem → Prop
  | wrongType {j : Json} : (∀ items, j ≠ .list items) → TextsFlaw j (.wrongType j .list)
  | item (ss : List String) {j : Json} (rest : List Json) {p : Problem} : TextFlaw j p →
      TextsFlaw (.list (ss.map .text ++ j :: rest)) p

def IsAddress (j : Json) (a : Net.Address) : Prop := ∃ s, j = .text s ∧ Net.Address.ofText? s = some a

inductive AddressFlaw : Json → Problem → Prop
  | wrongType {j : Json} : (∀ s, j ≠ .text s) → AddressFlaw j (.wrongType j .address)
  | badAddress {s : String} : Net.Address.ofText? s = none → AddressFlaw (.text s) .badAddress

/-- Nothing, or a value. -/
inductive IsOptional {α : Type} (Says : Json → α → Prop) : Json → Option α → Prop
  | null : IsOptional Says .null none
  | value {j : Json} {a : α} : j ≠ .null → Says j a → IsOptional Says j (some a)

/-- It is enough that every value says something or has a flaw, and that the reader answers accordingly. -/
theorem reads_of {α : Type} {read : Json → Except Problem α} {Says : Json → α → Prop} {Flaw : Json → Problem → Prop}
    (hvalue : ∀ j a, Says j a → read j = .ok a) (hflaw : ∀ j p, Flaw j p → read j = .error p)
    (hall : ∀ j, (∃ a, Says j a) ∨ ∃ p, Flaw j p) : Reads read Says Flaw where
  ok_iff j a := by
    refine ⟨fun h => ?_, hvalue j a⟩
    rcases hall j with ⟨a', ha⟩ | ⟨p, hp⟩
    · obtain rfl := Except.ok.inj (h.symm.trans (hvalue j a' ha))
      exact ha
    · cases h.symm.trans (hflaw j p hp)
  error_iff j p := by
    refine ⟨fun h => ?_, hflaw j p⟩
    rcases hall j with ⟨a, ha⟩ | ⟨p', hp⟩
    · cases h.symm.trans (hvalue j a ha)
    · obtain rfl := Except.error.inj (h.symm.trans (hflaw j p' hp))
      exact hp

theorem word64_reads : Reads word64 IsWord64 WordFlaw := by
  refine reads_of ?_ ?_ ?_
  · rintro j n rfl
    have hn := n.toNat_lt
    have hrange : (0 : Int) ≤ n.toNat ∧ (n.toNat : Int) ≤ Word.max64 := by
      unfold Word.max64
      omega
    simp only [word64, hrange, and_self, if_true, Int.toNat_natCast, UInt64.ofNat_toNat]
  · intro j p h
    cases h with
    | wrongType h =>
      cases j with
      | int n => exact absurd rfl (h n)
      | _ => rfl
    | outOfRange h =>
      refine if_neg ?_
      unfold Word.count64 at h
      unfold Word.max64
      omega
  · intro j
    cases j with
    | int n =>
      by_cases hrange : 0 ≤ n ∧ n < Word.count64
      · refine .inl ⟨UInt64.ofNat n.toNat, ?_⟩
        unfold Word.count64 at hrange
        rw [IsWord64, UInt64.toNat_ofNat_of_lt' (by simp only [UInt64.size]; omega), Int.toNat_of_nonneg hrange.1]
      · exact .inr ⟨_, .outOfRange (by omega)⟩
    | _ => exact .inr ⟨_, .wrongType (by simp)⟩

theorem text_reads : Reads text IsText TextFlaw := by
  refine reads_of ?_ ?_ ?_
  · rintro j s rfl
    rfl
  · rintro j p ⟨h⟩
    cases j with
    | text s => exact absurd rfl (h s)
    | _ => rfl
  · intro j
    cases j with
    | text s => exact .inl ⟨s, rfl⟩
    | _ => exact .inr ⟨_, .wrongType (by simp)⟩

theorem address_reads : Reads address IsAddress AddressFlaw := by
  refine reads_of ?_ ?_ ?_
  · rintro j a ⟨s, rfl, ha⟩
    simp only [address, ha]
  · intro j p h
    cases h with
    | wrongType h =>
      cases j with
      | text s => exact absurd rfl (h s)
      | _ => rfl
    | badAddress h => simp only [address, h]
  · intro j
    cases j with
    | text s =>
      cases ha : Net.Address.ofText? s with
      | some a => exact .inl ⟨a, s, rfl, ha⟩
      | none => exact .inr ⟨_, .badAddress ha⟩
    | _ => exact .inr ⟨_, .wrongType (by simp)⟩

theorem texts_reads : Reads texts IsTexts TextsFlaw := by
  refine reads_of ?_ ?_ ?_
  · rintro j ss rfl
    show (ss.map Json.text).mapM text = .ok ss
    induction ss with
    | nil => rfl
    | cons s ss ih => rw [List.map_cons, List.mapM_cons, ih]; rfl
  · intro j p h
    cases h with
    | wrongType h =>
      cases j with
      | list items => exact absurd rfl (h items)
      | _ => rfl
    | @item ss j rest _ h =>
      show (ss.map Json.text ++ j :: rest).mapM text = .error p
      induction ss with
      | nil =>
        rw [List.map_nil, List.nil_append, List.mapM_cons, (text_reads.error_iff j p).mpr h]
        rfl
      | cons s ss ih => rw [List.map_cons, List.cons_append, List.mapM_cons, ih]; rfl
  · intro j
    cases j with
    | list items =>
      -- The texts at the front of the list, up to its end or to an item that is none.
      induction items with
      | nil => exact .inl ⟨[], rfl⟩
      | cons j rest ih =>
        cases j with
        | text s =>
          rcases ih with ⟨ss, hss⟩ | ⟨p, hp⟩
          · cases hss
            exact .inl ⟨s :: ss, rfl⟩
          · cases hp with
            | wrongType h => exact absurd rfl (h rest)
            | item ss rest h => exact .inr ⟨p, .item (s :: ss) rest h⟩
        | _ => exact .inr ⟨_, .item [] rest (.wrongType (by simp))⟩
    | _ => exact .inr ⟨_, .wrongType (by simp)⟩

/-- Where `null` may stand, any other value is read as if it had to be there. -/
theorem Reads.optional {α : Type} {read : Json → Except Problem α} {Says : Json → α → Prop}
    {Flaw : Json → Problem → Prop} (h : Reads read Says Flaw) :
    Reads (optional read) (IsOptional Says) fun j p => j ≠ .null ∧ Flaw j p := by
  have hread : ∀ j, j ≠ .null → Settings.optional read j = (read j).map some := by
    intro j hnull
    cases j with
    | null => exact absurd rfl hnull
    | _ => rfl
  refine reads_of ?_ ?_ ?_
  · intro j x hx
    cases hx with
    | null => rfl
    | value hnull hvalue => rw [hread j hnull, (h.ok_iff j _).mpr hvalue]; rfl
  · rintro j p ⟨hnull, hflaw⟩
    rw [hread j hnull, (h.error_iff j p).mpr hflaw]
    rfl
  · intro j
    by_cases hnull : j = .null
    · exact .inl ⟨none, hnull ▸ .null⟩
    · cases hj : read j with
      | ok a => exact .inl ⟨some a, .value hnull ((h.ok_iff j a).mp hj)⟩
      | error p => exact .inr ⟨p, hnull, (h.error_iff j p).mp hj⟩

theorem Reads.says_iff {α : Type} {read : Json → Except Problem α} {Says : Json → α → Prop}
    {Flaw : Json → Problem → Prop} (h : Reads read Says Flaw) (j : Json) : (∃ a, Says j a) ↔ ∀ p, ¬ Flaw j p := by
  simp only [← h.ok_iff, ← h.error_iff]
  cases read j <;> simp

section

variable {α β : Type} {read : Json → Except Problem α} {Says : Json → α → Prop} {Flaw : Json → Problem → Prop}

theorem Reads.map_eq_ok_iff (h : Reads read Says Flaw) (f : α → β) (j : Json) (b : β) :
    (read j).map f = .ok b ↔ ∃ a, Says j a ∧ f a = b := by
  simp only [← h.ok_iff]
  cases read j <;> simp [Except.map]

theorem Reads.map_eq_error_iff (h : Reads read Says Flaw) (f : α → β) (j : Json) (p : Problem) :
    (read j).map f = .error p ↔ Flaw j p := by
  rw [← h.error_iff]
  cases read j <;> simp [Except.map]

end

/-! ## Fields -/

variable {κ : Type} {field : κ → String → Json → Except Problem κ} {Fault : String → Json → Problem → Prop}

theorem readFields_cons (start : κ) (f : String × Json) (rest : Json.Fields) :
    readFields field start (f :: rest) = (field start f.1 f.2).bind fun known => readFields field known rest := rfl

/-- The first field with a fault is reported, whatever was read before it. -/
theorem readFields_eq_error_iff (hfault : ∀ known name j p, field known name j = .error p ↔ Fault name j p) (start : κ)
    (fields : Json.Fields) (p : Problem) :
    readFields field start fields = .error p ↔
      ∃ before f after, fields = before ++ f :: after ∧ (∀ g ∈ before, ∀ q, ¬ Fault g.1 g.2 q) ∧ Fault f.1 f.2 p := by
  induction fields generalizing start with
  | nil => simp [readFields, pure, Except.pure]
  | cons f rest ih =>
    rw [readFields_cons]
    cases hf : field start f.1 f.2 with
    | error q =>
      have hq := (hfault _ _ _ _).mp hf
      rw [Except.bind, Except.error.injEq]
      constructor
      · rintro rfl
        exact ⟨[], f, rest, rfl, by simp, hq⟩
      · rintro ⟨before, g, after, heq, hfree, hp⟩
        cases before with
        | nil =>
          cases heq
          exact Except.error.inj (hf.symm.trans ((hfault _ _ _ _).mpr hp))
        | cons e before =>
          cases heq
          exact absurd hq (hfree f List.mem_cons_self q)
    | ok known =>
      have hnone : ∀ q, ¬ Fault f.1 f.2 q := by
        intro q hq
        rw [(hfault start _ _ _).mpr hq] at hf
        cases hf
      rw [Except.bind, ih known]
      constructor
      · rintro ⟨before, g, after, rfl, hfree, hp⟩
        exact ⟨f :: before, g, after, rfl, List.forall_mem_cons.mpr ⟨hnone, hfree⟩, hp⟩
      · rintro ⟨before, g, after, heq, hfree, hp⟩
        cases before with
        | nil =>
          cases heq
          exact absurd hp (hnone p)
        | cons e before =>
          cases heq
          exact ⟨before, g, after, rfl, (List.forall_mem_cons.mp hfree).2, hp⟩

theorem readFields_ok_iff (hfault : ∀ known name j p, field known name j = .error p ↔ Fault name j p) (start : κ)
    (fields : Json.Fields) :
    (∃ known, readFields field start fields = .ok known) ↔ ∀ f ∈ fields, ∀ p, ¬ Fault f.1 f.2 p := by
  induction fields generalizing start with
  | nil => simp [readFields, pure, Except.pure]
  | cons f rest ih =>
    rw [readFields_cons, List.forall_mem_cons]
    simp only [← hfault start f.1 f.2]
    cases hf : field start f.1 f.2 with
    | error p => simp [Except.bind]
    | ok known => simp [Except.bind, ih known]

/-- A part of what is known, before and after a field: the field of one name sets it, and no other. -/
def SetBy {α : Type} (key : String) (Says : Json → α → Prop) (name : String) (j : Json) (before after : α) : Prop :=
  if name = key then Says j after else after = before

/-- After all fields a part has what its field says, if there is one. -/
theorem given_of_setBy {α : Type} {key : String} {Says : Json → α → Prop} (part : κ → α)
    (hset : ∀ known name j known', field known name j = .ok known' →
      SetBy key Says name j (part known) (part known'))
    {fields : Json.Fields} (hnodup : (fields.map Prod.fst).Nodup) {start known : κ}
    (hread : readFields field start fields = .ok known) :
    Given Says (part start) (fields.lookup key) (part known) := by
  induction fields generalizing start with
  | nil =>
    cases hread
    exact .omitted
  | cons f rest ih =>
    obtain ⟨name, j⟩ := f
    obtain ⟨hfresh, hrest⟩ := List.nodup_cons.mp hnodup
    rw [readFields_cons] at hread
    cases hf : field start name j with
    | error p =>
      rw [hf] at hread
      cases hread
    | ok next =>
      rw [hf] at hread
      have hlater := ih hrest hread
      have hnext := hset start name j next hf
      unfold SetBy at hnext
      rw [List.lookup_cons]
      by_cases hname : name = key
      · -- No later field has the name, so the part stays as it is now.
        subst hname
        have hnone : rest.lookup name = none := by
          rw [List.lookup_eq_none_iff]
          intro g hg
          exact bne_iff_ne.mpr fun heq => hfresh (List.mem_map.mpr ⟨g, hg, heq.symm⟩)
        rw [if_pos rfl] at hnext
        rw [hnone] at hlater
        rw [beq_self_eq_true]
        generalize part known = final at hlater ⊢
        cases hlater
        exact .given hnext
      · rw [if_neg hname] at hnext
        rw [beq_false_of_ne (Ne.symm hname)]
        rw [hnext] at hlater
        exact hlater

end RateCounter.Settings
