import Mathlib.Algebra.Group.Nat.Defs
import Mathlib.Data.List.Basic
import StateWeave.Bytes.Reader

/-!
# Readers take what writers put

A reader takes bytes for a value if it reads the value off their front and leaves whatever
follows. A row of readers advances with each value that is taken, so that the law of a record is
put together from those of its fields, in their order. Texts and lists are written behind a
count of eight bytes, which is why all of this is about bytes that are not more than such a count
can tell.
-/

namespace StateWeave.Bytes.Reader

variable {α β : Type}

/-- Reading these bytes leads from one reader to another. -/
def Advances (read : Reader α) (bytes : Bytes) (next : Reader α) : Prop :=
  bytes.length < UInt64.size → ∀ rest, read (bytes ++ rest) = next rest

/-- A reader takes these bytes for this value. -/
def Takes (read : Reader α) (bytes : Bytes) (value : α) : Prop :=
  Advances read bytes (Pure.pure value)

section

variable {read : Reader α} {row after : Reader β} {next : α → Reader β} {bytes more : Bytes}
  {a : α}

/-- The first reader of a row takes what it takes, and the row goes on from the value. -/
theorem Takes.first (taken : Takes read bytes a) (same : next a = after) :
    Advances (read >>= next) bytes after := by
  intro short rest
  change Reader.bind read next _ = _
  rw [Reader.bind, taken short rest, ← same]
  rfl

theorem Advances.trans (front : Advances row bytes after) {last : Reader β}
    (back : Advances after more last) : Advances row (bytes ++ more) last := by
  intro short rest
  rw [List.length_append] at short
  rw [List.append_assoc, front (by omega) (more ++ rest)]
  exact back (by omega) rest

/-- The next reader of a row takes what it takes. -/
theorem Advances.and (front : Advances row bytes (read >>= next)) (taken : Takes read more a)
    (same : next a = after) : Advances row (bytes ++ more) after :=
  front.trans (taken.first same)

/-- A reader that refuses to read nothing takes no empty bytes. -/
theorem Takes.length_pos (taken : Takes read bytes a) (strict : read [] = none) :
    0 < bytes.length := by
  cases bytes with
  | nil =>
      have nothing := taken (by decide) []
      rw [List.append_nil, strict] at nothing
      cases nothing
  | cons b rest => exact Nat.succ_pos _

end

theorem littleEndian_append {width n : Nat} (fits : n < 256 ^ width) (rest : Bytes) :
    littleEndian width (Bytes.littleEndian width n ++ rest) = some (n, rest) := by
  induction width generalizing n with
  | zero =>
      rw [Nat.lt_one_iff.mp fits]
      rfl
  | succ width ih =>
      have high : n / 256 < 256 ^ width := by
        rw [Nat.pow_succ] at fits
        omega
      have low : (UInt8.ofNat n).toNat + 256 * (n / 256) = n := by
        have byte : (UInt8.ofNat n).toNat = n % 256 := UInt8.toNat_ofNat'
        omega
      have inner := ih high
      change Reader.bind byte (fun low => Reader.bind (littleEndian width) fun high =>
        Reader.pure (low.toNat + 256 * high)) (UInt8.ofNat n ::
          (Bytes.littleEndian width (n / 256) ++ rest)) = _
      simp only [Reader.bind, byte, inner, Reader.pure, low]

theorem takes_littleEndian {width n : Nat} (fits : n < 256 ^ width) :
    Takes (littleEndian width) (Bytes.littleEndian width n) n :=
  fun _ rest => littleEndian_append fits rest

theorem takes_word32 (n : UInt32) : Takes word32 (putWord32 n) n := by
  have word : Takes (littleEndian 4) (putWord32 n) n.toNat := takes_littleEndian n.toNat_lt
  have whole : Takes word32 (putWord32 n) (UInt32.ofNat n.toNat) := word.first rfl
  rwa [UInt32.ofNat_toNat] at whole

theorem takes_count {n : Nat} (fits : n < UInt64.size) : Takes count (putCount n) n :=
  takes_littleEndian fits

theorem takes_bool (b : Bool) : Takes bool (putBool b) b := by
  intro _ rest
  cases b <;> rfl

theorem takes_take (bytes : Bytes) : Takes (take bytes.length) bytes bytes := by
  intro _ rest
  rw [take, if_pos (by simp), List.take_left, List.drop_left]
  rfl

theorem fromUTF8?_toUTF8 (text : String) :
    String.fromUTF8? ⟨text.toUTF8.data.toList.toArray⟩ = some text := by
  have valid : text.toUTF8.IsValidUTF8 := text.isValidUTF8
  rw [Array.toArray_toList, String.fromUTF8?, dif_pos valid]
  rfl

theorem takes_text (text : String) : Takes Reader.text (putText text) text := by
  have size : text.toUTF8.data.toList.length = text.utf8ByteSize := rfl
  intro short
  have fits : text.utf8ByteSize < UInt64.size := by
    rw [putText, List.length_append, size] at short
    omega
  have inside : Takes (take text.utf8ByteSize) text.toUTF8.data.toList
      text.toUTF8.data.toList := by
    rw [← size]
    exact takes_take _
  have whole : Advances Reader.text (putText text) _ :=
    (takes_count fits).first (by rfl) |>.and inside rfl
  rw [fromUTF8?_toUTF8] at whole
  exact whole short

theorem takes_option {put : α → Bytes} {read : Reader α} {value : Option α}
    (inner : ∀ a, value = some a → Takes read (put a) a) :
    Takes (option read) (putOption put value) value := by
  cases value with
  | none => exact (takes_bool false).first rfl
  | some a =>
      have flag : Advances (option read) (putBool true) _ := (takes_bool true).first rfl
      exact flag.and (inner a rfl) rfl

theorem takes_times {put : α → Bytes} {read : Reader α} {items : List α}
    (inner : ∀ a ∈ items, Takes read (put a) a) :
    Takes (times read items.length) (items.flatMap put) items := by
  induction items with
  | nil => exact fun _ _ => rfl
  | cons a items ih =>
      have others := ih fun b member => inner b (List.mem_cons_of_mem a member)
      rw [List.flatMap_cons]
      exact (inner a List.mem_cons_self).first (by rfl) |>.and others rfl

theorem length_le_length_flatMap {put : α → Bytes} {items : List α}
    (nonempty : ∀ a ∈ items, 0 < (put a).length) :
    items.length ≤ (items.flatMap put).length := by
  induction items with
  | nil => exact Nat.le_refl _
  | cons a items ih =>
      have first := nonempty a List.mem_cons_self
      have others := ih fun b member => nonempty b (List.mem_cons_of_mem a member)
      rw [List.flatMap_cons, List.length_append, List.length_cons]
      omega

/-- The count of a list fits, since every item takes some of the bytes. -/
theorem takes_list {put : α → Bytes} {read : Reader α} {items : List α}
    (strict : read [] = none) (inner : ∀ a ∈ items, Takes read (put a) a) :
    Takes (list read) (putList put items) items := by
  intro short
  have count := length_le_length_flatMap fun a member => (inner a member).length_pos strict
  have fits : items.length < UInt64.size := by
    rw [putList, List.length_append] at short
    omega
  exact ((takes_count fits).first rfl).trans (takes_times inner) short

/-- The position of a case leads to the reader of what the case carries. -/
theorem advances_sum {cases : List (Reader α)} {position : Nat} {read : Reader α}
    (found : cases[position]? = some read) (few : position < 256 ^ 4) :
    Advances (sum cases) (putTag position) read := by
  have whole : Advances (sum cases) (putTag position) _ :=
    (takes_littleEndian few).first rfl
  rwa [found] at whole

end StateWeave.Bytes.Reader
