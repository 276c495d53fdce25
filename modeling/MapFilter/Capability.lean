import MapFilter.Compilation
import MapFilter.Text.Message

/-!
# Probing the features

Whether the features carry a date key is found out by looking at a few records. The result is
remembered per source together with the generation of its data, until the source is probed again
for another generation or the memory is cleared. A probe that saw no records is not remembered, so
that the next one looks again once data has arrived.

- `Probe.detect`: what some records carry
- `Probe.get`: the remembered result, or a fresh one
-/

namespace MapFilter

/-! ## §1 Samples -/

/-- What a sample provider has for a source: records, or the message of its failure. -/
inductive Sample where
  | records (rs : List Record)
  | failed (message : String)

/-- A sample provider with a state of its own: what it has for a source, and its next state. -/
abbrev SampleProvider (σ : Type) := Value → σ → Sample × σ

/-- The date key in a property: an integer, or a binary64 number without a fraction. -/
def dateKeyOf? : Value → Option Int
  | .int key => if DateKey.isValid key then some key else none
  | .float x => x.toInt?.filter DateKey.isValid
  | _ => none

/-- Whether a record has a date key under a field, which must be a key. -/
def carriesDateKey (field : FieldName) (r : Record) : Bool :=
  match r.field? field with
  | some v => (dateKeyOf? v).isSome
  | none => false

/-! ## §2 Probes -/

/-- A value that results are remembered under, and when it was given. A value that is not a number
equals nothing, but what was remembered under it is found as long as it is not given anew. -/
structure ProbeKey where
  value : Value
  giving : Nat := 0
deriving DecidableEq

namespace ProbeKey

/-- Whether two keys are one: they are equal in value, or were given together. -/
def isSame (a b : ProbeKey) : Bool :=
  a.value.same b.value || a = b

/-- Whether something can be remembered under the key. -/
def isKey (k : ProbeKey) : Bool :=
  k.value.isKey

end ProbeKey

/-- A remembered result. -/
structure ProbeEntry where
  source : ProbeKey
  generation : ProbeKey
  capability : Capability
deriving DecidableEq

/-- Whether a result was remembered for a source at a generation of its data. -/
def ProbeEntry.isFor (source generation : ProbeKey) (e : ProbeEntry) : Bool :=
  e.source.isSame source && e.generation.isSame generation

/-- A probe: the fields to look at, how many records to look at, and what it remembers. -/
structure Probe where
  fields : List FieldName
  sampleSize : Nat
  cache : List ProbeEntry := []
deriving DecidableEq

namespace Probe

/-- The fields of a probe: the primary one, and the alternates that do not repeat it. -/
def fieldChain (field : FieldName) (alternates : List FieldName) : List FieldName :=
  field :: alternates.filter fun other => !other.same field

/-- The probe for some fields. It looks at one record at least. -/
def make (field : FieldName) (alternates : List FieldName) (sampleSize : Int) : Probe :=
  { fields := fieldChain field alternates, sampleSize := max sampleSize.toNat 1 }

/-- What the first records of a list carry. As soon as there is a record, every field must be a
key. -/
def inspect (probe : Probe) (records : List Record) : Except NoKey Capability :=
  match records.take probe.sampleSize with
  | [] => .ok .unknown
  | seen =>
    match probe.fields.find? fun field => !field.isKey with
    | some field => .error ⟨field⟩
    | none =>
      let resolved := probe.fields.filter fun field => seen.any (carriesDateKey field)
      .ok { hasDateKey := !resolved.isEmpty, resolved := resolved, sampled := true }

/-- Why a sample says nothing, for the log. -/
def sampleLogs (source : Value) : Sample → List LogEntry
  | .records _ => []
  | .failed message =>
    [.warning "wlheat.capability"
      ("Sample provider for " ++ source.display ++ " failed: " ++ message)]

/-- What a sample shows. -/
def inspectSample (probe : Probe) : Sample → Except NoKey Capability
  | .records rs => probe.inspect rs
  | .failed _ => .ok .unknown

/-- A fresh look at a source. -/
def detect {σ : Type} (probe : Probe) (provider : SampleProvider σ) (source : Value) (s : σ) :
    Except NoKey Capability × List LogEntry × σ :=
  let (sample, s) := provider source s
  (probe.inspectSample sample, sampleLogs source sample, s)

/-- The result remembered for a source at a generation of its data, both of which must be keys. -/
def cached (probe : Probe) (source generation : ProbeKey) : Except NoKey (Option Capability) :=
  if !source.isKey then .error ⟨source.value⟩
  else if !generation.isKey then .error ⟨generation.value⟩
  else .ok ((probe.cache.find? (ProbeEntry.isFor source generation)).map ProbeEntry.capability)

/-- The probe without what it remembers of a source, or of any source. -/
def invalidate (probe : Probe) (source : Option Value) : Probe :=
  match source with
  | none => { probe with cache := [] }
  | some id => { probe with cache := probe.cache.filter fun e => !e.source.value.same id }

/-- The probe with a result remembered as the only one of its source. -/
def remember (probe : Probe) (source generation : ProbeKey) (capability : Capability) : Probe :=
  let others := (probe.invalidate (some source.value)).cache.filter fun e =>
    !e.isFor source generation
  { probe with cache := others ++ [⟨source, generation, capability⟩] }

/-- The answer of a probe, with the probe and the provider as they are afterwards. -/
structure Answer (σ : Type) where
  capability : Except NoKey Capability
  logs : List LogEntry
  probe : Probe
  provider : σ

/-- A fresh look at a source that is remembered if it saw records. If its key is none, what was
remembered of the source is forgotten. -/
def renew {σ : Type} (probe : Probe) (provider : SampleProvider σ) (source generation : ProbeKey)
    (s : σ) : Answer σ :=
  match probe.detect provider source.value s with
  | (.error e, logs, s) => ⟨.error e, logs, probe, s⟩
  | (.ok capability, logs, s) =>
    -- A look that saw no records says nothing about those that may come.
    if !capability.sampled then ⟨.ok capability, logs, probe, s⟩
    else
      match probe.cached source generation with
      | .error e => ⟨.error e, logs, probe.invalidate (some source.value), s⟩
      | .ok _ => ⟨.ok capability, logs, probe.remember source generation capability, s⟩

/-- What a source carries at a generation of its data: as remembered, unless a refresh is asked
for or nothing is remembered. -/
def get {σ : Type} (probe : Probe) (provider : SampleProvider σ) (source generation : ProbeKey)
    (refresh : Bool) (s : σ) : Answer σ :=
  if refresh then probe.renew provider source generation s
  else
    match probe.cached source generation with
    | .error e => ⟨.error e, [], probe, s⟩
    | .ok (some capability) => ⟨.ok capability, [], probe, s⟩
    | .ok none => probe.renew provider source generation s

end Probe

/-! ## §3 Sample sizes -/

/-- Why a setting is no sample size. -/
inductive SizeError where
  | unreadable (e : Number.IntegerTextError)
  | noNumber
  | notFinite (x : Number)
deriving DecidableEq

def SizeError.message? : SizeError → Option String
  | .unreadable e => some e.message
  | .notFinite .nan => some "cannot convert float NaN to integer"
  | .noNumber | .notFinite _ => none

/-- The whole number in a setting. A fraction is dropped, and a text may spell the number. -/
def Value.toSize : Value → Except SizeError Int
  | .bool b => .ok (if b then 1 else 0)
  | .int i => .ok i
  | .float x => if x.isFinite then .ok x.truncated else .error (.notFinite x)
  | .text s =>
    match Number.settingInt s with
    | .ok i => .ok i
    | .error e => .error (.unreadable e)
  | .null | .list _ | .object _ => .error .noNumber

end MapFilter
