import StateWeave.Json.Decode
import StateWeave.Proofs.JsonText

/-!
# Decoders restore what was written

A decoder restores a value from a JSON form if it reads the value off the transcript of the form,
be it a text's or a value's, and the form survives being printed. A record is put together from
its fields: each is found under its own name wherever the entry stands, as long as no name occurs
twice. A case of a sum is found by its tag.
-/

namespace StateWeave.Json

open Transcript (ofJson ofItems ofEntries)

variable {α β : Type}

namespace Transcript

mutual

@[simp] theorem isWhole_ofJson : ∀ json : Json, (ofJson json).isWhole = true
  | .null | .bool _ | .int _ | .decimal _ | .str _ => rfl
  | .arr items => areWhole_ofItems items
  | .obj entries => by
      rw [ofJson, isWhole, entriesAreWhole_ofEntries entries]
      rfl

theorem areWhole_ofItems : ∀ items : List Json, areWhole (ofItems items) = true
  | [] => rfl
  | item :: rest => by
      rw [ofItems, areWhole, isWhole_ofJson item, areWhole_ofItems rest]
      rfl

theorem entriesAreWhole_ofEntries :
    ∀ entries : List (String × Json), entriesAreWhole (ofEntries entries) = true
  | [] => rfl
  | (_, value) :: rest => by
      rw [ofEntries, entriesAreWhole, isWhole_ofJson value, entriesAreWhole_ofEntries rest]
      rfl

end

theorem ofEntries_eq_map (entries : List (String × Json)) :
    ofEntries entries = entries.map fun entry => (entry.1, ofJson entry.2) := by
  induction entries with
  | nil => rfl
  | cons entry rest ih => rw [ofEntries, ih, List.map_cons]

end Transcript

theorem Transcript.eq_null_of_ofJson {json : Json} (h : ofJson json = .null) : json = .null := by
  have read := Transcript.toJson?_ofJson json
  rw [h] at read
  exact (Option.some.inj read).symm

theorem allWritable_iff {items : List Json} :
    AllWritable items ↔ ∀ item ∈ items, item.Writable := by
  induction items with
  | nil => simp [AllWritable]
  | cons item rest ih => rw [AllWritable, ih, List.forall_mem_cons]

theorem entriesWritable_iff {entries : List (String × Json)} :
    EntriesWritable entries ↔ ∀ entry ∈ entries, entry.2.Writable := by
  induction entries with
  | nil => simp [EntriesWritable]
  | cons entry rest ih => rw [EntriesWritable, ih, List.forall_mem_cons]

/-- The decoder reads the value off its written form. -/
structure Decoder.Restores (read : Decoder α) (json : Json) (a : α) : Prop where
  writable : json.Writable
  reads : ∀ medium, read medium (ofJson json) = .ok a

/-- The value has a written form that its type's decoder reads back. -/
def Restores [ToJson α] [OfJson α] (a : α) : Prop := (decode : Decoder α).Restores (toJson a) a

namespace Decoder

theorem restores_text (s : String) : Decoder.text.Restores (.str s) s := ⟨trivial, fun _ => rfl⟩

theorem restores_bool (b : Bool) : Decoder.bool.Restores (.bool b) b := ⟨trivial, fun _ => rfl⟩

theorem restores_natBelow {bound n : Nat} (below : n < bound) (short : n < UInt64.size) :
    (natBelow bound).Restores (.int n) n := by
  refine ⟨short, fun medium => ?_⟩
  rw [ofJson, natBelow, if_pos ⟨by omega, by omega⟩]
  rfl

theorem restores_word32 (n : UInt32) : Decoder.word32.Restores (.int n.toNat) n := by
  have short : n.toNat < UInt32.size := n.toNat_lt
  have number := restores_natBelow short (short.trans (by decide))
  refine ⟨number.writable, fun medium => ?_⟩
  rw [word32, number.reads, Except.map, UInt32.ofNat_toNat]

theorem Restores.map {read : Decoder α} {json : Json} {a : α} (inner : read.Restores json a)
    (f : α → β) : (Decoder.map f read).Restores json (f a) := by
  refine ⟨inner.writable, fun medium => ?_⟩
  rw [Decoder.map, inner.reads]
  rfl

/-- A value that is there is not written as nothing. -/
theorem restores_option [ToJson α] {read : Decoder α} {value : Option α}
    (inner : ∀ a, value = some a → read.Restores (toJson a) a ∧ toJson a ≠ .null) :
    (Decoder.option read).Restores (toJson value) value := by
  cases value with
  | none => exact ⟨trivial, fun _ => rfl⟩
  | some a =>
      obtain ⟨present, something⟩ := inner a rfl
      refine ⟨present.writable, fun medium => ?_⟩
      change Decoder.option read medium (ofJson (toJson a)) = _
      rw [Decoder.option.eq_def]
      split
      · rename_i null
        exact absurd (Transcript.eq_null_of_ofJson null) something
      · rw [present.reads]
        rfl

theorem restores_list {read : Decoder α} {form : α → Json} {items : List α}
    (inner : ∀ a ∈ items, read.Restores (form a) a) :
    (Decoder.list read).Restores (.arr (items.map form)) items := by
  constructor
  · refine allWritable_iff.mpr fun json member => ?_
    obtain ⟨a, stands, rfl⟩ := List.mem_map.mp member
    exact (inner a stands).writable
  · intro medium
    change Decoder.items read medium (ofItems (items.map form)) = .ok items
    induction items with
    | nil => rfl
    | cons a items ih =>
        have others := ih fun b member => inner b (List.mem_cons_of_mem a member)
        rw [List.map_cons, ofItems, Decoder.items, (inner a List.mem_cons_self).reads, others]
        rfl

theorem restores_bare {cases : List (Case α)} {name : String} {a : α}
    (found : Case.named cases name = .ok (.bare name a)) :
    (Decoder.sum cases).Restores (.tag name) a := by
  refine ⟨trivial, fun medium => ?_⟩
  change Decoder.sum cases medium (.str name) = _
  rw [Decoder.sum, found]
  rfl

theorem restores_carrying {cases : List (Case α)} {name : String} {read : Decoder α}
    {payload : Json} {a : α} (inner : read.Restores payload a)
    (found : Case.named cases name = .ok (.carrying name read)) :
    (Decoder.sum cases).Restores (.tagged name payload) a := by
  refine ⟨⟨inner.writable, trivial⟩, fun medium => ?_⟩
  change Decoder.sum cases medium (.obj [(name, ofJson payload)] .closed) = _
  cases medium with
  | text =>
      have whole := inner.reads .text
      rw [Decoder.sum, found]
      change (read .text (ofJson payload)).bind _ = _
      rw [whole]
      rfl
  | value =>
      have whole := inner.reads .value
      rw [Decoder.sum, found]
      exact whole

end Decoder

namespace Fields

/-- What one entry adds to the occurrences of a name. -/
def occurrence? (name : String) (entry : (String × Transcript) × Nat) : Option (Nat × Transcript) :=
  if entry.1.1 = name then some (entry.2, entry.1.2) else none

theorem occurrence?_self (name : String) (t : Transcript) (place : Nat) :
    occurrence? name ((name, t), place) = some (place, t) :=
  if_pos rfl

theorem occurrence?_of_ne {name key : String} (other : key ≠ name) (t : Transcript) (place : Nat) :
    occurrence? name ((key, t), place) = none :=
  if_neg other

/-- An entry of this name stands among the entries once, with this value. -/
def Single (entries : List (String × Json)) (name : String) (json : Json) : Prop :=
  ∃ place, occurrences name (ofEntries entries) = [(place, ofJson json)]

theorem filterMap_occurrence?_of_not_mem {entries : List (String × Json)} {name : String}
    (absent : name ∉ entries.map Prod.fst) (start : Nat) :
    ((ofEntries entries).zipIdx start).filterMap (occurrence? name) = [] := by
  induction entries generalizing start with
  | nil => rfl
  | cons entry rest ih =>
      rw [List.map_cons, List.mem_cons, not_or] at absent
      rw [ofEntries, List.zipIdx_cons,
        List.filterMap_cons_none (occurrence?_of_ne (Ne.symm absent.1) _ _), ih absent.2]

theorem single_of_mem {entries : List (String × Json)} {name : String} {json : Json}
    (distinct : (entries.map Prod.fst).Nodup) (member : (name, json) ∈ entries) :
    Single entries name json := by
  suffices found : ∀ start, ∃ place,
      ((ofEntries entries).zipIdx start).filterMap (occurrence? name) = [(place, ofJson json)] from
    found 0
  induction entries with
  | nil => cases member
  | cons entry rest ih =>
      intro start
      obtain ⟨absent, distinct⟩ := List.nodup_cons.mp distinct
      rw [ofEntries, List.zipIdx_cons]
      rcases List.mem_cons.mp member with rfl | later
      · refine ⟨start, ?_⟩
        rw [List.filterMap_cons_some (occurrence?_self name _ start),
          filterMap_occurrence?_of_not_mem absent]
      · have other : entry.1 ≠ name := by
          rintro rfl
          exact absent (List.mem_map.mpr ⟨_, later, rfl⟩)
        rw [List.filterMap_cons_none (occurrence?_of_ne other _ _)]
        exact ih distinct later (start + 1)

/-- The fields restore a part of a record from the entries that are their own, in whatever object
these stand once each. -/
structure Restores (fields : Fields α) (own : List (String × Json)) (a : α) : Prop where
  writable : ∀ entry ∈ own, entry.2.Writable
  reads : ∀ entries, (∀ entry ∈ own, Single entries entry.1 entry.2) →
    ∀ medium declared, fields.run medium declared (.named (ofEntries entries)) = .ok a

theorem restores_pure (a : α) : (pure a : Fields α).Restores [] a :=
  ⟨by simp, fun _ _ _ _ => rfl⟩

/-- A record with one field more. -/
theorem Restores.field {fields : Fields (α → β)} {own : List (String × Json)} {f : α → β}
    (front : fields.Restores own f) {name : String} {read : Decoder α} {json : Json} {a : α}
    (inner : read.Restores json a) {unnamed unlisted : Except DecodeError α} :
    (seq fields (field name read unnamed unlisted)).Restores (own ++ [(name, json)]) (f a) := by
  constructor
  · exact List.forall_mem_append.mpr ⟨front.writable, by simpa using inner.writable⟩
  · intro entries single medium declared
    obtain ⟨before, last⟩ := List.forall_mem_append.mp single
    obtain ⟨place, stands⟩ := last (name, json) List.mem_cons_self
    have value : readNamed name (read medium) unnamed (declared + fields.names.length)
        (ofEntries entries) = .ok a := by
      rw [readNamed, stands]
      change ((read medium) (ofJson json)).mapError _ = _
      rw [inner.reads]
      rfl
    simp only [seq, front.reads entries before, Fields.field, value]

/-- Unknown entries can be passed over as well as any. -/
theorem strayFault?_ofEntries (known : List String) (entries : List (String × Json)) :
    strayFault? known (ofEntries entries) .closed = none := by
  rw [strayFault?, List.find?_eq_none.mpr]
  · rfl
  · rintro ⟨⟨name, t⟩, place⟩ member
    have stands := List.fst_mem_of_mem_zipIdx member
    rw [Transcript.ofEntries_eq_map] at stands
    obtain ⟨entry, -, same⟩ := List.mem_map.mp stands
    have value : ofJson entry.2 = t := (Prod.mk.inj same).2
    simp [← value]

/-- The record of the fields, if no two of its entries have one name. -/
theorem Restores.decoder {fields : Fields α} {own : List (String × Json)} {a : α}
    (whole : fields.Restores own a) (distinct : (own.map Prod.fst).Nodup) :
    fields.decoder.Restores (.obj own) a := by
  constructor
  · exact entriesWritable_iff.mpr whole.writable
  · intro medium
    have row := whole.reads own (fun entry member => single_of_mem distinct member) medium 0
    change fields.readObject medium (ofEntries own) .closed = _
    rw [readObject, row, strayFault?_ofEntries]

theorem Restores.payloadDecoder {fields : Fields α} {own : List (String × Json)} {a : α}
    (whole : fields.Restores own a) (distinct : (own.map Prod.fst).Nodup) :
    fields.payloadDecoder.Restores (.obj own) a := by
  have record := whole.decoder distinct
  refine ⟨record.writable, fun medium => ?_⟩
  cases medium with
  | text => exact record.reads .text
  | value => exact record.reads .value

end Fields

theorem decodeText_of_reads [OfJson α] {text : String} {t : Transcript} {a : α}
    (whole : Transcript.ofText text = (t, true)) (reads : decode .text t = .ok a) :
    decodeText text = .ok a := by
  rw [decodeText, whole]
  dsimp only
  rw [reads]
  rfl

/-- What is restored from its form is read from its text, unless containers are too deep in it. -/
theorem Restores.decodeText_pretty [ToJson α] [OfJson α] {a : α} (form : Restores a)
    (within : (ofJson (toJson a)).depth ≤ maxDepth) : decodeText (toJson a).pretty = .ok a :=
  decodeText_of_reads (Transcript.ofText_pretty form.writable within) (form.reads .text)

end StateWeave.Json
