import StateWeave.Artifact.Basic
import StateWeave.Proofs.BoundFragments

/-!
# The fragments of a tree of declarations

A fragment that waits for a placeholder names its slot by a number. A number that counts
something in the memory of a machine fits into a word of 64 bits, and only such a slot has a
written form.
-/

namespace StateWeave

/-- The slot that a fragment waits for, if any, is a number of 64 bits. -/
def Fragment.SlotFits (f : Fragment) : Prop :=
  ∀ slot, f.routing.slot? = some slot → slot < UInt64.size

mutual

/-- The fragments that a declaration can call, those of nested modules included. -/
def Declaration.calls : Declaration → List Fragment
  | .pipeline decl => decl.calls
  | .nested module => module.calls
  | _ => []

def NestedModule.calls : NestedModule → List Fragment
  | ⟨_, _, _, declarations⟩ => Declaration.callsIn declarations

def Declaration.callsIn : List Declaration → List Fragment
  | [] => []
  | declaration :: rest => declaration.calls ++ Declaration.callsIn rest

end

def Artifact.calls (a : Artifact) : List Fragment := Declaration.callsIn a.declarations

def SlotsFit (fragments : List Fragment) : Prop := ∀ f ∈ fragments, f.SlotFits

namespace SlotsFit

variable {α : Type}

theorem append {fragments others : List Fragment} :
    SlotsFit (fragments ++ others) ↔ SlotsFit fragments ∧ SlotsFit others :=
  List.forall_mem_append

theorem flatMap {items : List α} {calls : α → List Fragment} :
    SlotsFit (items.flatMap calls) ↔ ∀ item ∈ items, SlotsFit (calls item) :=
  List.forall_mem_flatMap

theorem observers {observers : List Observer} :
    SlotsFit (observers.map Observer.fragment) ↔ ∀ o ∈ observers, o.fragment.SlotFits :=
  List.forall_mem_map

theorem callsIn {declarations : List Declaration} :
    SlotsFit (Declaration.callsIn declarations) ↔ ∀ d ∈ declarations, SlotsFit d.calls := by
  induction declarations with
  | nil => simp [SlotsFit, Declaration.callsIn]
  | cons d rest ih => rw [Declaration.callsIn, append, ih, List.forall_mem_cons]

end SlotsFit

end StateWeave
