/-
  RateCounter.Store.Settings — the settings of a memory store: how often it sweeps.
-/

import RateCounter.Settings
import RateCounter.Store

namespace RateCounter

structure StoreSettings where
  purgeEvery : UInt64
  deriving DecidableEq, Repr

namespace StoreSettings

def default : StoreSettings := ⟨UInt64.ofNat defaultPurgeEvery⟩

def fieldNames : List String := ["purge_every"]

def readField (s : StoreSettings) (name : String) (value : Json) : Except Settings.Problem StoreSettings :=
  if name = "purge_every" then (Settings.word64 value).map fun n => { s with purgeEvery := n }
  else .error (.unknownField name fieldNames)

def read (fields : Json.Fields) : Except Settings.Problem StoreSettings :=
  Settings.readFields readField default fields

def store (s : StoreSettings) : Store := Store.empty s.purgeEvery.toNat

end StoreSettings

end RateCounter
