import StateWeave.Build.Child

/-!
# Building modules

A module's composition has to be started by its shape before it can take options
and children. Whenever the module is given a location, its own composition takes
it over; later parts of the composition take the location that holds at that time.
-/

namespace StateWeave

/-- One link of a chain that changes a draft of a module. -/
inductive ModuleCall where
  | access (access : Access)
  | placement (placement : Placement)
  | record
  | variant
  | bindable
  | initialCase (name : String)
  | stateConformances (list : List Conformance)
  | actionConformances (list : List Conformance)
  | child (start : ChildStart) (calls : List ChildCall)
  /-- A child that is there already. -/
  | entry (entry : ChildEntry)
  /-- A composition as a whole, beside the one in the making if there is one. -/
  | composition (composition : Composition)
  | member (member : Member)
  | members (members : List Member)
  | located (location : Location)
  deriving Inhabited

/-- A module in the making. `composition` is the part that calls go to, and `others`
were added beside it. -/
structure ModuleDraft where
  name : String
  access : Access := .hidden
  placement : Placement := .root
  composition : Option Composition := none
  others : List Composition := []
  members : List Member := []
  location : Location := {}
  deriving Inhabited

namespace ModuleDraft

/-- Start the composition, or change the shape of the one that is there. -/
def withShape (d : ModuleDraft) (shape : StateShape) : ModuleDraft :=
  { d with composition := some { d.composition.getD { location := d.location } with shape := shape } }

/-- Change the composition, which has to have been started. -/
def change (d : ModuleDraft) (f : Composition → Composition) : Except BuildError ModuleDraft :=
  match d.composition with
  | some c => .ok { d with composition := some (f c) }
  | none => .error .missingDirective

def withOption (d : ModuleDraft) (option : CompositionOption) : Except BuildError ModuleDraft :=
  d.change fun c => { c with options := c.options ++ [option] }

def withEntry (d : ModuleDraft) (entry : ChildEntry) : Except BuildError ModuleDraft :=
  d.change fun c => { c with children := c.children ++ [entry] }

/-- Take over a whole composition, or put it beside the one that is there. -/
def withComposition (d : ModuleDraft) (c : Composition) : ModuleDraft :=
  if d.composition.isSome then { d with others := d.others ++ [c] }
  else { d with composition := some c }

/-- Move a module and its composition; options and children stay where they are. -/
def withLocation (d : ModuleDraft) (location : Location) : ModuleDraft :=
  { d with
    location := location
    composition := d.composition.map fun c => { c with location := location } }

/-- Make one call. It fails if it needs a composition and there is none, or if the
child it brings cannot be built. -/
def call (d : ModuleDraft) : ModuleCall → Except BuildError ModuleDraft
  | .access access => .ok { d with access := access }
  | .placement placement => .ok { d with placement := placement }
  | .record => .ok (d.withShape .record)
  | .variant => .ok (d.withShape .variant)
  | .bindable => d.withOption .bindable
  | .initialCase name => d.withOption (.initialCase (.string name) d.location)
  | .stateConformances list => d.withOption (.stateConformances list)
  | .actionConformances list => d.withOption (.actionConformances list)
  | .child start calls => do
    let draft ← start.draft.callAll calls
    let entry ← draft.build
    d.withEntry entry
  | .entry entry => d.withEntry entry
  | .composition c => .ok (d.withComposition c)
  | .member member => .ok { d with members := d.members ++ [member] }
  | .members members => .ok { d with members := d.members ++ members }
  | .located location => .ok (d.withLocation location)

/-- Make calls one after the other, up to the first failure. -/
def callAll (d : ModuleDraft) : List ModuleCall → Except BuildError ModuleDraft
  | [] => .ok d
  | c :: rest => do
    let d ← d.call c
    d.callAll rest

/-- Only the name of a module can be missing. -/
def build (d : ModuleDraft) : Except BuildError ModuleDef :=
  if d.name = "" then .error .missingModuleName
  else .ok ⟨d.name, d.access, d.composition.toList ++ d.others, d.placement, d.members, d.location⟩

end ModuleDraft

end StateWeave
