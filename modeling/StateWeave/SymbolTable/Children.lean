import StateWeave.ChildPlan
import StateWeave.SymbolTable.Registration

/-!
# Applying a composition

A composition is applied in three steps: its options, its children in the order
in which they are listed, and at last the initial case, because it has to name
one of the children.

Placeholders of a nested list are entered into the parent's registry too, under
the list's name, so that members of the parent can bind them. The nested module
reads its own list again and reports on it; the parent keeps silent about it.
-/

namespace StateWeave.SymbolTable

/-- Enter an option. Initial cases have to wait for the children. -/
def applyOption (t : SymbolTable) : CompositionOption → SymbolTable
  | .bindable => { t with bindable := true }
  | .stateConformances list => { t with stateOptions := t.stateOptions ++ list }
  | .actionConformances list => { t with actionOptions := t.actionOptions ++ list }
  | .initialCase _ _ => t

/-- Of several initial cases the last one counts. -/
def lastInitialCase? (options : List CompositionOption) : Option (Expr × Location) :=
  options.foldl
    (fun last option =>
      match option with
      | .initialCase name location => some (name, location)
      | _ => last)
    none

/-- The placeholder that an entry declares under a key. -/
def placeholderOf (key : String) (kind : PlaceholderKind) (entry : ChildEntry)
    (resolve : Resolver) : Placeholder where
  name := key
  kind := kind
  presentable := entry.presents
  actionType := entry.type.map fun type => (resolve type).canonical
  location := entry.location

/-- Enter a placeholder. One that was handed down already bound stays as it is. -/
def insertPlaceholder (t : SymbolTable) (p : Placeholder) : SymbolTable :=
  if (t.placeholders.get? p.name).any Placeholder.isBound then t
  else { t with placeholders := t.placeholders.insert p }

/-- Enter the placeholder that an entry of a nested list declares, if it declares one. -/
def insertListed (list : String) (resolve : Resolver) (t : SymbolTable) (entry : ChildEntry) :
    SymbolTable :=
  match PlaceholderKind.ofChild? entry.kind, entry.name? with
  | some kind, some name =>
    t.insertPlaceholder (placeholderOf (Naming.nestedKey list name) kind entry resolve)
  | _, _ => t

/-- A presented placeholder is guarded by its state like any presented child, but
it has no module to run. -/
def declarePlaceholder (t : SymbolTable) (entry : ChildEntry) (resolve : Resolver)
    (kind : PlaceholderKind) (name : String) : SymbolTable :=
  (t.register name entry.location (.duplicateChild name) fun t =>
    let t := t.insertPlaceholder (placeholderOf name kind entry resolve)
    if entry.presents then t.pushStage ⟨.ifLet, name, true, none, []⟩ else t).1

/-- Enter a child and, if its name was free and its kind is run, its stage. -/
def addStaged (t : SymbolTable) (name : String) (e : Embedding) (initialValue : Option String)
    (location : Location) (staged : Bool) : SymbolTable :=
  match t.addChild name e initialValue location with
  | (t, false) => t
  | (t, true) =>
    match staged, ChildStage.ofEmbedding? name e with
    | true, some stage => t.pushStage stage
    | _, _ => t

/-- Enter what an entry asks for. Only root modules run the modules of their lists. -/
def addEntry (resolve : Resolver) (t : SymbolTable) (entry : ChildEntry) : SymbolTable :=
  match entry.plan t.policy resolve with
  | .refused problem => t.report problem entry.location
  | .placeholder kind name => t.declarePlaceholder entry resolve kind name
  | .list name e children =>
    (children.foldl (insertListed name resolve) t).addStaged name e none entry.location
      t.placement.isRoot
  | .child name e initialValue dropped =>
    (if dropped then t.report (.tupleInitialValueIgnored name) entry.location else t).addStaged
      name e initialValue entry.location true

/-- The name of the initial case, or what is wrong with it. -/
def checkInitialCase (t : SymbolTable) (e : Expr) : Except Problem String :=
  match e.literal? with
  | none => .error .initialCaseNotLiteral
  | some name =>
    if t.isVariant then
      match t.stateMembers.find? fun member => member.name = name with
      | none => .error (.unknownInitialCase name)
      | some member =>
        if member.initialValue.isNone && !member.isUnit then
          .error (.initialCaseWithoutDefault name)
        else .ok name
    else .error .initialCaseOnRecord

/-- Select the initial case, or report why it cannot be selected. -/
def selectInitialCase (t : SymbolTable) (e : Expr) (location : Location) : SymbolTable :=
  match t.checkInitialCase e with
  | .ok name => { t with initialName := some name }
  | .error problem => t.report problem location

def addEntries (resolve : Resolver) (t : SymbolTable) (entries : List ChildEntry) : SymbolTable :=
  entries.foldl (addEntry resolve) t

/-- Apply options, children and the initial case, in this order. The table keeps
its own shape, whatever the composition says. -/
def compose (t : SymbolTable) (c : Composition) (resolve : Resolver) : SymbolTable :=
  let t := addEntries resolve (c.options.foldl applyOption t) c.children
  match lastInitialCase? c.options with
  | some (name, location) => t.selectInitialCase name location
  | none => t

end StateWeave.SymbolTable
