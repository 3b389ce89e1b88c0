import StateWeave.Embedding

/-!
# Placeholders

Alerts and confirmation dialogs are declared with the children of a module, but
the type of their actions is often settled elsewhere, by a member that binds it.
Until then they are placeholders. A registry keeps them in the order in which
they came; its names are pairwise distinct as long as only `insert` adds to it.

Placeholders of a nested list are known to the parent as `list.name`. The nested
module sees the same entries without the name of the list.
-/

namespace StateWeave

/-- The children that may wait for their type of actions. -/
inductive PlaceholderKind where
  | alert
  | confirmationDialog
  deriving DecidableEq, Inhabited, Repr

namespace PlaceholderKind

def text : PlaceholderKind → String
  | alert => "alert"
  | confirmationDialog => "confirmation dialog"

/-- The name of a placeholder that was not given one. -/
def defaultName : PlaceholderKind → String
  | alert => "alert"
  | confirmationDialog => "confirmation_dialog"

/-- The kind of placeholder that a kind of child declares, if it declares one. -/
def ofChild? : ChildKind → Option PlaceholderKind
  | .alert => some alert
  | .confirmationDialog => some confirmationDialog
  | _ => none

end PlaceholderKind

/-- An alert or a dialog that may not be bound yet. -/
structure Placeholder where
  name : String
  kind : PlaceholderKind
  presentable : Bool
  actionType : Option String
  location : Location
  deriving DecidableEq, Inhabited, Repr

namespace Placeholder

/-- Whether the type of its actions is settled. -/
def isBound (p : Placeholder) : Bool := p.actionType.isSome

/-- What the placeholder embeds once its action type is known. -/
def embedding? (p : Placeholder) : Option Embedding :=
  p.actionType.map fun action =>
    match p.kind with
    | .alert => .alert action p.presentable
    | .confirmationDialog => .confirmationDialog action p.presentable

/-- A name without a dot belongs to the module itself and not to one of its lists. -/
def isLocal (p : Placeholder) : Bool := !p.name.toList.contains '.'

end Placeholder

/-- Why no placeholder could be bound. An unnamed binding counts the unbound
placeholders of its kind and never finds exactly one. -/
inductive BindError where
  | notFound
  | ambiguous (candidates : Nat)
  deriving DecidableEq, Repr

/-- The placeholders of a module, in the order in which they came. -/
structure PlaceholderRegistry where
  entries : List Placeholder := []
  deriving DecidableEq, Inhabited, Repr

namespace PlaceholderRegistry

def empty : PlaceholderRegistry := {}

/-- The first entry of a name. -/
def get? (r : PlaceholderRegistry) (name : String) : Option Placeholder :=
  r.entries.find? fun entry => entry.name = name

def contains (r : PlaceholderRegistry) (name : String) : Bool := (r.get? name).isSome

def size (r : PlaceholderRegistry) : Nat := r.entries.length

def isEmpty (r : PlaceholderRegistry) : Bool := r.entries.isEmpty

def names (r : PlaceholderRegistry) : List String := r.entries.map Placeholder.name

/-- Put `p` in the place of the first entry with its name, or behind all entries. -/
def insertIn (p : Placeholder) : List Placeholder → List Placeholder
  | [] => [p]
  | entry :: rest => if entry.name = p.name then p :: rest else entry :: insertIn p rest

/-- A placeholder of a known name replaces the entry and takes over its position. -/
def insert (r : PlaceholderRegistry) (p : Placeholder) : PlaceholderRegistry :=
  ⟨insertIn p r.entries⟩

/-- Whether an unnamed binding may pick this placeholder. -/
def isCandidate (kind : PlaceholderKind) (p : Placeholder) : Bool := p.kind = kind && !p.isBound

/-- The entry that a binding means: by kind and name, or as the only unbound one of
its kind. -/
def target (r : PlaceholderRegistry) (kind : PlaceholderKind) (name : Option String) :
    Except BindError Placeholder :=
  match name with
  | some name =>
    match r.entries.find? fun entry => entry.kind = kind && entry.name = name with
    | some entry => .ok entry
    | none => .error .notFound
  | none =>
    match r.entries.filter (isCandidate kind) with
    | [only] => .ok only
    | others => .error (.ambiguous others.length)

/-- Give the first entry that passes the test an action type. -/
def bindFirst (test : Placeholder → Bool) (actionType : String) :
    List Placeholder → List Placeholder
  | [] => []
  | entry :: rest =>
    if test entry then { entry with actionType := some actionType } :: rest
    else entry :: bindFirst test actionType rest

/-- Whether a binding of this kind and name passes over earlier entries to this one. -/
def accepts (kind : PlaceholderKind) (name : Option String) (p : Placeholder) : Bool :=
  match name with
  | some name => p.kind = kind && p.name = name
  | none => isCandidate kind p

/-- Settle the action type of one placeholder and tell its name. A named binding may
settle it again; an unnamed one looks at unbound placeholders only. -/
def bind (r : PlaceholderRegistry) (kind : PlaceholderKind) (name : Option String)
    (actionType : String) : Except BindError (String × PlaceholderRegistry) :=
  match r.target kind name with
  | .ok entry => .ok (entry.name, ⟨bindFirst (accepts kind name) actionType r.entries⟩)
  | .error error => .error error

/-- The name of an entry inside the list it belongs to, if it belongs to `list`. -/
def localName? (list name : String) : Option String :=
  let front := list.toList ++ ['.']
  if front.isPrefixOf name.toList then some (String.ofList (name.toList.drop front.length))
  else none

/-- The entries of one nested list, under the names they have there. -/
def forList (r : PlaceholderRegistry) (list : String) : PlaceholderRegistry :=
  ⟨r.entries.filterMap fun entry =>
    (localName? list entry.name).map fun name => { entry with name := name }⟩

@[simp] theorem map_name_bindFirst (test : Placeholder → Bool) (actionType : String)
    (entries : List Placeholder) :
    (bindFirst test actionType entries).map Placeholder.name =
      entries.map Placeholder.name := by
  induction entries with
  | nil => rfl
  | cons entry rest ih =>
    by_cases h : test entry = true <;> simp [bindFirst, h, ih]

end PlaceholderRegistry

end StateWeave
