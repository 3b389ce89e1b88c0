import Mathlib.Data.List.Forall2
import StateWeave.Proofs.AccessorTypes
import StateWeave.Proofs.Levels

/-!
# Tables that switch over cases

A table of cases is made from the children of a variant, as are the cases of its state and those of
its actions, each by a function of its own. The table gives a child that is a module the types of
that module, whereas state and actions hold the module in the way in which it is embedded: as it
is, as an optional, as a collection or as a stack. `switch_cases_fit` pairs the cases of the state
with those of the table, one by one and in order, at every level of an expansion.
-/

namespace StateWeave

/-- The types under which the state and the actions hold a child module, and whether the child is
presented. -/
inductive HoldsModule (module : String) : Bool → String → String → Prop
  | single : HoldsModule module false (module ++ ".State") (module ++ ".Action")
  | optional : HoldsModule module false (module ++ ".State?") (module ++ ".Action")
  | presented :
      HoldsModule module true (module ++ ".State?")
        ("PresentationAction<" ++ (module ++ ".Action") ++ ">")
  | collection :
      HoldsModule module false ("IdentifiedArrayOf<" ++ module ++ ".State>")
        ("IdentifiedActionOf<" ++ module ++ ">")
  | stack :
      HoldsModule module false ("StackState<" ++ module ++ ".State>")
        ("StackAction<" ++ module ++ ".State, " ++ module ++ ".Action>")

/-- The action type of a module is never the unit type, whatever the module is called. -/
theorem HoldsModule.ne_void {module stateType actionType : String} {presents : Bool}
    (holds : HoldsModule module presents stateType actionType) : actionType ≠ "Void" := by
  intro void
  cases holds with
  | single | optional =>
      have last := congrArg (fun type => type.toList.getLast?) void
      simp at last
  | presented | collection | stack =>
      have first := congrArg (fun type => type.toList.head?) void
      simp at first

/-- A case of a switch table fits a case of the state and the cases of the actions. That of a module
has the types of the module, which the state and the actions hold under its name; that of a value
has the type that the state has; and a bare one stands for a bare case. -/
inductive SwitchCase.Fits (actions : List ActionCase) : StateField → SwitchCase → Prop
  | module {name module stateType actionType : String} {initialValue : Option String}
      {presents : Bool} :
      HoldsModule module presents stateType actionType →
      ⟨name, some actionType⟩ ∈ actions →
      Fits actions ⟨name, some stateType, initialValue, presents⟩
        (.module name (module ++ ".State") (module ++ ".Action"))
  | payload {name type : String} {initialValue : Option String} {presents : Bool} :
      Fits actions ⟨name, some type, initialValue, presents⟩ (.payload name type)
  | bare {name : String} {initialValue : Option String} {presents : Bool} :
      Fits actions ⟨name, none, initialValue, presents⟩ (.bare name)

/-- The cases of a state. A record has fields and no cases. -/
def StateDecl.cases (decl : StateDecl) : List StateField :=
  match decl.shape with
  | .record => []
  | .variant => decl.fields

/-- A child that is a module has an action type, and state and actions hold the module. -/
theorem Embedding.holdsModule {e : Embedding} {module : String}
    (runs : e.moduleType? = some module) :
    e.isStateless = false ∧
      ∃ type, e.actionType? = some type ∧
        HoldsModule module e.isPresentable e.stateType type := by
  cases e with
  | singletonModule =>
      cases runs
      exact ⟨rfl, _, rfl, .single⟩
  | optionalModule _ presentable =>
      cases runs
      cases presentable with
      | false => exact ⟨rfl, _, rfl, .optional⟩
      | true => exact ⟨rfl, _, rfl, .presented⟩
  | keyedCollection =>
      cases runs
      exact ⟨rfl, _, rfl, .collection⟩
  | destination =>
      cases runs
      exact ⟨rfl, _, rfl, .presented⟩
  | navigationStack =>
      cases runs
      exact ⟨rfl, _, rfl, .stack⟩
  | _ => cases runs

namespace SymbolTable

/-- A table that knows its children as members of its state, as cases if it is a variant, and as
actions if they act. -/
structure Embeds (t : SymbolTable) (children : List NamedChild) : Prop where
  stateMembers : t.stateMembers = children.map NamedChild.member
  scopeCases : t.scopeCases = t.casesOf children
  actionMembers : ∀ child ∈ children, ∀ m, child.action? = some m → m ∈ t.actionMembers

theorem embeds_ofModule (policy : Policy) (resolver : Resolver) (definition : ModuleDef)
    (c : Composition) :
    (ofModule policy resolver definition c).Embeds
      (c.embedded policy resolver definition.members) where
  stateMembers := stateMembers_ofModule policy resolver definition c
  scopeCases := by
    have shape : (started policy definition c).isVariant =
        (ofModule policy resolver definition c).isVariant := by
      rw [isVariant, isVariant, shape_ofModule]
      rfl
    rw [scopeCases_ofModule, casesOf, casesOf, shape]
  actionMembers _ embedded _ action :=
    mem_actionMembers_of_child policy resolver definition c embedded action

theorem embeds_table (resolver : Resolver) (site : ListSite) :
    (site.table resolver).Embeds (site.embedded resolver) where
  stateMembers := site.stateMembers_table resolver
  scopeCases := by
    rw [site.scopeCases_table, casesOf, isVariant, site.shape_table]
    rfl
  actionMembers child embedded _ action := by
    rw [site.actionMembers_table]
    exact List.mem_filterMap.mpr ⟨child, embedded, action⟩

variable {t : SymbolTable}

/-- The case that a variant switches to for a child fits those that the child has in its state and
among its actions. -/
theorem fits_switchCase (variant : t.shape = .variant) {child : NamedChild}
    (actions : ∀ m, child.action? = some m → m ∈ t.actionMembers) :
    SwitchCase.Fits t.actionDecl.cases (t.stateField child.member)
      (switchCase child.scopeCase) := by
  have isVariant : t.isVariant = true := decide_eq_true variant
  have embedding : child.scopeCase.embedding = child.embedding := rfl
  have unit : child.member.isUnit = child.embedding.isStateless := rfl
  rw [switchCase, stateField, isVariant, embedding, unit, Bool.and_true, Bool.not_true,
    Bool.and_false]
  cases runs : child.embedding.moduleType? with
  | some module =>
      obtain ⟨stateful, type, acts, holds⟩ := Embedding.holdsModule runs
      have member : ⟨child.name, type⟩ ∈ t.actionMembers :=
        actions _ (by rw [NamedChild.action?, acts]; rfl)
      have case := mem_cases_actionDecl member
      rw [actionCaseOf, if_neg holds.ne_void] at case
      rw [stateful]
      exact .module holds case
  | none =>
      cases child.embedding.isStateless with
      | false => exact .payload
      | true => exact .bare

/-- A table of cases fits the state and the actions that are declared with it. A record has no
cases, and so has its table. -/
theorem Embeds.fits {children : List NamedChild} (embeds : t.Embeds children) :
    List.Forall₂ (SwitchCase.Fits t.actionDecl.cases) t.stateDecl.cases
      (t.scopeCases.map switchCase) := by
  have fields : t.stateDecl.fields = t.stateMembers.map t.stateField := rfl
  rw [embeds.scopeCases, casesOf]
  cases kind : t.shape with
  | record =>
      have cases : t.stateDecl.cases = [] := by rw [StateDecl.cases, stateDecl, kind]
      have isRecord : ¬t.isVariant = true := by rw [isVariant, kind]; decide
      rw [cases, if_neg isRecord]
      exact .nil
  | variant =>
      have cases : t.stateDecl.cases = t.stateDecl.fields := by
        rw [StateDecl.cases, stateDecl, kind]
      have isVariant : t.isVariant = true := decide_eq_true kind
      rw [cases, if_pos isVariant, fields, embeds.stateMembers, List.map_map, List.map_map,
        List.forall₂_map_left_iff, List.forall₂_map_right_iff, List.forall₂_same]
      intro child embedded
      exact fits_switchCase kind (embeds.actionMembers child embedded)

end SymbolTable

theorem ModuleDef.HasTable.exists_embeds {policy : Policy} {resolver : Resolver}
    {definition : ModuleDef} {t : SymbolTable} (table : definition.HasTable policy resolver t) :
    ∃ children, t.Embeds children := by
  cases table with
  | own _ => exact ⟨_, SymbolTable.embeds_ofModule policy resolver definition _⟩
  | list _ => exact ⟨_, SymbolTable.embeds_table resolver _⟩

namespace Expansion

variable {policy : Policy} {resolver : Resolver} {definition : ModuleDef} {ds : List Declaration}

/-- Where a level has a table of cases, these are the cases of its state, in order, and each of
them fits the case of the state and the actions of the level. -/
theorem switch_cases_fit (level : (ofModule policy resolver definition).HasLevel ds)
    {table : SwitchTable} (declared : .scopeCases table ∈ ds) :
    ∃ state action,
      ds.filterMap Declaration.state? = [state] ∧
      ds.filterMap Declaration.action? = [action] ∧
      List.Forall₂ (SwitchCase.Fits action.cases) state.cases table.cases := by
  obtain ⟨t, known, rfl⟩ := exists_table_of_mem level declared
  have resolved := known.isComplete.resolved
  obtain ⟨children, embeds⟩ := known.exists_embeds
  obtain ⟨_, rfl⟩ :=
    (SymbolTable.mem_scopeCases_declare_iff resolver resolved table).mp declared
  exact ⟨t.stateDecl, t.actionDecl, SymbolTable.states_declare resolver resolved,
    SymbolTable.actions_declare resolver resolved, embeds.fits⟩

def catalog : ModuleDef where
  name := "Catalog"
  directives := [{
    shape := .variant
    children := [
      ⟨.reducer, false, some (.string "item"), some (.optional (.named "Item")), none, {}⟩,
      ⟨.stateless, false, some (.string "waiting"), none, none, {}⟩] }]

def catalogState : StateDecl :=
  ⟨.hidden, .whole, .variant, ["Equatable"],
    [⟨"item", some "Item.State?", none, false⟩, ⟨"waiting", none, none, false⟩], none⟩

def catalogSwitch : SwitchTable :=
  ⟨.hidden, [.module "item" "Item.State" "Item.Action", .bare "waiting"]⟩

theorem state_mem_catalog : .state catalogState ∈ (ofModule {} .textual catalog).declarations := by
  decide

theorem scopeCases_mem_catalog :
    .scopeCases catalogSwitch ∈ (ofModule {} .textual catalog).declarations := by
  decide

/-- The catalog's cases fit, those of the item under the types of an optional module. -/
theorem switch_cases_fit_catalog :
    ∃ action,
      (ofModule {} .textual catalog).declarations.filterMap Declaration.action? = [action] ∧
      List.Forall₂ (SwitchCase.Fits action.cases) catalogState.cases catalogSwitch.cases := by
  have level : (ofModule {} .textual catalog).HasLevel
      (ofModule {} .textual catalog).declarations := .outermost
  obtain ⟨state, action, states, actions, fits⟩ := switch_cases_fit level scopeCases_mem_catalog
  have found : catalogState ∈ [state] := by
    rw [← states]
    exact List.mem_filterMap.mpr ⟨_, state_mem_catalog, rfl⟩
  rw [← List.mem_singleton.mp found] at fits
  exact ⟨action, actions, fits⟩

/-- The case of a module need not have the type that the state has under its name. -/
theorem switched_type_may_differ :
    ¬∀ (definition : ModuleDef) (decl : StateDecl) (table : SwitchTable),
      .state decl ∈ (ofModule {} .textual definition).declarations →
      .scopeCases table ∈ (ofModule {} .textual definition).declarations →
      ∀ name stateType actionType, .module name stateType actionType ∈ table.cases →
        ∃ field ∈ decl.cases, field.name = name ∧ field.type = some stateType := by
  intro same
  obtain ⟨field, member, named, typed⟩ := same catalog catalogState catalogSwitch
    state_mem_catalog scopeCases_mem_catalog "item" "Item.State" "Item.Action"
    List.mem_cons_self
  have cases : catalogState.cases = catalogState.fields := rfl
  rw [cases] at member
  rcases List.mem_cons.mp member with rfl | later
  · exact absurd typed (by decide)
  · rw [List.mem_singleton.mp later] at named
    exact absurd named (by decide)

end Expansion

end StateWeave
