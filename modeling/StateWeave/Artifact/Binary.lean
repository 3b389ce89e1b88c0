import StateWeave.Artifact.Basic
import StateWeave.Bytes.Reader

/-!
# Artifacts as bytes

Records are written field by field, in the order of their declarations, and cases
as their position among the cases of their type. Declarations contain themselves;
they are read with a depth, which the number of bytes bounds, since every level
takes some. What follows an artifact is ignored.
-/

namespace StateWeave

open Bytes (Reader putTag)
open Bytes.Reader (sum)

instance : ToBytes Location := ⟨fun l => put l.line ++ put l.column⟩
instance : OfBytes Location := ⟨do return ⟨← get, ← get⟩⟩

instance : ToBytes Access where
  put
    | .hidden => putTag 0
    | .package => putTag 1
    | .exported => putTag 2

instance : OfBytes Access := ⟨sum [return .hidden, return .package, return .exported]⟩

instance : ToBytes StateShape where
  put
    | .record => putTag 0
    | .variant => putTag 1

instance : OfBytes StateShape := ⟨sum [return .record, return .variant]⟩

instance : ToBytes Placement where
  put
    | .root => putTag 0
    | .destination list parent => putTag 1 ++ put list ++ put parent
    | .stack list parent => putTag 2 ++ put list ++ put parent

instance : OfBytes Placement where
  get := sum [return .root, do return .destination (← get) (← get),
    do return .stack (← get) (← get)]

instance : ToBytes Step where
  put
    | .field name => putTag 0 ++ put name
    | .case name => putTag 1 ++ put name
    | .dynamicCase name => putTag 2 ++ put name
    | .optional => putTag 3
    | .presented => putTag 4
    | .element => putTag 5

instance : OfBytes Step where
  get := sum [do return .field (← get), do return .case (← get), do return .dynamicCase (← get),
    return .optional, return .presented, return .element]

instance : ToBytes Path := ⟨fun p => put p.root ++ put p.steps⟩
instance : OfBytes Path := ⟨do return ⟨← get, ← get⟩⟩

instance : ToBytes CallArg := ⟨fun a => put a.name ++ put a.isMutable⟩
instance : OfBytes CallArg := ⟨do return ⟨← get, ← get⟩⟩

instance : ToBytes Routing where
  put
    | .any => putTag 0
    | .action path => putTag 1 ++ put path
    | .identified outer inner => putTag 2 ++ put outer ++ put inner
    | .placeholder slot => putTag 3 ++ put slot

instance : OfBytes Routing where
  get := sum [return .any, do return .action (← get), do return .identified (← get) (← get),
    do return .placeholder (← get)]

instance : ToBytes Fragment where
  put f := put f.function ++ put f.args ++ put f.yieldsEffect ++ put f.routing ++ put f.location

instance : OfBytes Fragment := ⟨do return ⟨← get, ← get, ← get, ← get, ← get⟩⟩

instance : ToBytes Observer := ⟨fun o => put o.watched ++ put o.fragment⟩
instance : OfBytes Observer := ⟨do return ⟨← get, ← get⟩⟩

instance : ToBytes StageKind where
  put
    | .scope => putTag 0
    | .ifLet => putTag 1
    | .forEach => putTag 2
    | .ifCaseLet => putTag 3

instance : OfBytes StageKind where
  get := sum [return .scope, return .ifLet, return .forEach, return .ifCaseLet]

instance : ToBytes ChildStage where
  put s := put s.kind ++ put s.name ++ put s.binding ++ put s.module ++ put s.observers

instance : OfBytes ChildStage := ⟨do return ⟨← get, ← get, ← get, ← get, ← get⟩⟩

instance : ToBytes CoreModifier where
  put
    | .child stage => putTag 0 ++ put stage
    | .observer o => putTag 1 ++ put o

instance : OfBytes CoreModifier :=
  ⟨sum [do return .child (← get), do return .observer (← get)]⟩

instance : ToBytes Stage where
  put
    | .empty => putTag 0
    | .binding observers => putTag 1 ++ put observers
    | .fragment f => putTag 2 ++ put f
    | .child stage => putTag 3 ++ put stage
    | .core fragments modifiers => putTag 4 ++ put fragments ++ put modifiers

instance : OfBytes Stage where
  get := sum [return .empty, do return .binding (← get), do return .fragment (← get),
    do return .child (← get), do return .core (← get) (← get)]

instance : ToBytes Pipeline := ⟨fun p => put p.access ++ put p.stages⟩
instance : OfBytes Pipeline := ⟨do return ⟨← get, ← get⟩⟩

instance : ToBytes Emission where
  put
    | .whole => putTag 0
    | .augmentation => putTag 1

instance : OfBytes Emission := ⟨sum [return .whole, return .augmentation]⟩

instance : ToBytes StateField where
  put f := put f.name ++ put f.type ++ put f.initialValue ++ put f.presents

instance : OfBytes StateField := ⟨do return ⟨← get, ← get, ← get, ← get⟩⟩

instance : ToBytes InitialCase := ⟨fun c => put c.name ++ put c.value⟩
instance : OfBytes InitialCase := ⟨do return ⟨← get, ← get⟩⟩

instance : ToBytes StateDecl where
  put d := put d.access ++ put d.emission ++ put d.shape ++ put d.conformances ++
    put d.fields ++ put d.initialCase

instance : OfBytes StateDecl := ⟨do return ⟨← get, ← get, ← get, ← get, ← get, ← get⟩⟩

instance : ToBytes ActionCase := ⟨fun c => put c.name ++ put c.payload⟩
instance : OfBytes ActionCase := ⟨do return ⟨← get, ← get⟩⟩

instance : ToBytes ActionDecl where
  put d := put d.access ++ put d.emission ++ put d.conformances ++ put d.cases

instance : OfBytes ActionDecl := ⟨do return ⟨← get, ← get, ← get, ← get⟩⟩

instance : ToBytes Accessor where
  put
    | .path name base state stateType action actionType =>
      putTag 0 ++ put name ++ put base ++ put state ++ put stateType ++ put action ++
        put actionType
    | .nested name module => putTag 1 ++ put name ++ put module

instance : OfBytes Accessor where
  get := sum [do return .path (← get) (← get) (← get) (← get) (← get) (← get),
    do return .nested (← get) (← get)]

instance : ToBytes ScopeTable := ⟨fun t => put t.access ++ put t.entries⟩
instance : OfBytes ScopeTable := ⟨do return ⟨← get, ← get⟩⟩

instance : ToBytes SwitchCase where
  put
    | .module name state action => putTag 0 ++ put name ++ put state ++ put action
    | .payload name type => putTag 1 ++ put name ++ put type
    | .bare name => putTag 2 ++ put name

instance : OfBytes SwitchCase where
  get := sum [do return .module (← get) (← get) (← get), do return .payload (← get) (← get),
    do return .bare (← get)]

instance : ToBytes SwitchTable := ⟨fun t => put t.access ++ put t.cases⟩
instance : OfBytes SwitchTable := ⟨do return ⟨← get, ← get⟩⟩

namespace Declaration

mutual

def putForm : Declaration → Bytes
  | .state decl => putTag 0 ++ put decl
  | .action decl => putTag 1 ++ put decl
  | .pipeline decl => putTag 2 ++ put decl
  | .scopePaths table => putTag 3 ++ put table
  | .scopeCases table => putTag 4 ++ put table
  | .nested module => putTag 5 ++ putModule module
  | .error message => putTag 6 ++ put message

def putModule : NestedModule → Bytes
  | ⟨access, name, placement, declarations⟩ =>
    put access ++ put name ++ put placement ++ Bytes.putCount declarations.length ++
      putAll declarations

def putAll : List Declaration → Bytes
  | [] => []
  | declaration :: rest => putForm declaration ++ putAll rest

end

def getWithin : Nat → Reader Declaration
  | 0 => Reader.fail
  | depth + 1 => sum [do return .state (← get), do return .action (← get),
      do return .pipeline (← get), do return .scopePaths (← get), do return .scopeCases (← get),
      do return .nested ⟨← get, ← get, ← get, ← Reader.list (getWithin depth)⟩,
      do return .error (← get)]

end Declaration

instance : ToBytes Declaration := ⟨Declaration.putForm⟩
instance : OfBytes Declaration := ⟨fun bytes => Declaration.getWithin (bytes.length + 1) bytes⟩

instance : ToBytes Severity where
  put
    | .error => putTag 0
    | .warning => putTag 1

instance : OfBytes Severity := ⟨sum [return .error, return .warning]⟩

instance : ToBytes ProblemKind where
  put
    | .structural => putTag 0
    | .duplicateName => putTag 1
    | .unresolvedReference => putTag 2
    | .ambiguousPlaceholder => putTag 3
    | .signature => putTag 4
    | .warning => putTag 5

instance : OfBytes ProblemKind where
  get := sum [return .structural, return .duplicateName, return .unresolvedReference,
    return .ambiguousPlaceholder, return .signature, return .warning]

instance : ToBytes Remark := ⟨fun r => put r.message ++ put r.location⟩
instance : OfBytes Remark := ⟨do return ⟨← get, ← get⟩⟩

instance : ToBytes Diagnostic where
  put d := put d.severity ++ put d.kind ++ put d.message ++ put d.location ++ put d.notes ++
    put d.fixIt

instance : OfBytes Diagnostic := ⟨do return ⟨← get, ← get, ← get, ← get, ← get, ← get⟩⟩

instance : ToBytes Timestamp := ⟨fun t => put t.print⟩

instance : OfBytes Timestamp where
  get := do
    match Timestamp.parse? (← get) with
    | some t => return t
    | none => Reader.fail

instance : ToBytes Artifact where
  put a := put a.version ++ put a.id ++ put a.createdAt ++ put a.module ++
    put a.declarations ++ put a.diagnostics

instance : OfBytes Artifact := ⟨do return ⟨← get, ← get, ← get, ← get, ← get, ← get⟩⟩

namespace Artifact

def toBytes (a : Artifact) : Bytes := put a

/-- Read an artifact from bytes and check it. -/
def ofBytes (bytes : Bytes) : Except LoadError Artifact :=
  match (get : Reader Artifact) bytes with
  | some (a, _) => a.validate
  | none => .error (.unreadable none)

end Artifact

end StateWeave
