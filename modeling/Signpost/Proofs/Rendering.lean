import Signpost.Proofs.Success
import Signpost.Request
import Signpost.Reverse

/-!
# Rendered routes

A route turned round is rendered part by part, and asks for its required arguments in turn. The first
that is missing is what it fails with. If there is none, it gives the path of the segments that have not
come out empty. A path of segments
is taken apart into them again if none of them is empty and nothing in them ends a segment or the path.
-/
namespace Signpost

/-! ### Taking a path apart -/

namespace Text

/-- The path of segments, each behind a slash. -/
def slashed (texts : List String) : String := String.join (texts.map fun text => "/" ++ text)

theorem slashed_cons (text : String) (rest : List String) :
    (slashed (text :: rest)).toList = '/' :: (text.toList ++ (slashed rest).toList) := by
  simp [slashed, String.toList_append]

theorem slashed_ne_empty {texts : List String} (present : texts ≠ []) : slashed texts ≠ "" := by
  cases texts with
  | nil => exact absurd rfl present
  | cons text rest =>
    rw [ne_eq, ← String.toList_eq_nil_iff, slashed_cons]
    simp

theorem segments_slashed {texts : List String}
    (inner : ∀ text ∈ texts, text ≠ "" ∧ '/' ∉ text.toList) : segments (slashed texts) = texts := by
  -- the first slash leaves an empty piece in front, every other one ends a segment
  have cut : pieces (· == '/') (slashed texts).toList = [] :: texts.map String.toList := by
    induction texts with
    | nil => rfl
    | cons text rest ih =>
      obtain ⟨⟨-, plain⟩, others⟩ := List.forall_mem_cons.mp inner
      have apart : ∀ c ∈ text.toList, (c == '/') = false := by
        intro c member
        rw [beq_eq_false_iff_ne]
        rintro rfl
        exact plain member
      rw [slashed_cons, pieces, if_pos (by simp), pieces_append apart, ih others]
      simp
  have kept : (texts.map String.toList).filter (fun piece => !piece.isEmpty)
      = texts.map String.toList := by
    rw [List.filter_eq_self]
    intro piece member
    obtain ⟨text, among, rfl⟩ := List.mem_map.mp member
    simpa using (inner text among).1
  rw [segments, cut, List.filter_cons_of_neg (by simp), kept, List.map_map]
  simp [Function.comp_def]

theorem splitQuery_slashed {texts : List String} (plain : ∀ text ∈ texts, '?' ∉ text.toList) :
    splitQuery (slashed texts) = (slashed texts, none) := by
  have absent : '?' ∉ (slashed texts).toList := by
    induction texts with
    | nil => simp [slashed]
    | cons text rest ih =>
      obtain ⟨own, others⟩ := List.forall_mem_cons.mp plain
      rw [slashed_cons]
      simp [own, ih others]
  rw [splitQuery, splitFirst_whole absent]
  simp

/-- The path of segments, which is a slash if there are none. -/
def pathOf (texts : List String) : String := if texts.isEmpty then "/" else slashed texts

theorem pathOf_eq (texts : List String) :
    pathOf texts = if (slashed texts).isEmpty then "/" else slashed texts := by
  cases texts with
  | nil => rfl
  | cons text rest =>
    have present : (slashed (text :: rest)).isEmpty = false := by
      rw [String.isEmpty_eq_false_iff]
      exact slashed_ne_empty (List.cons_ne_nil text rest)
    rw [present]
    rfl

theorem pathOf_head (texts : List String) : (pathOf texts).toList.head? = some '/' := by
  cases texts with
  | nil => rfl
  | cons text rest =>
    rw [pathOf, List.isEmpty_cons, if_neg Bool.false_ne_true, slashed_cons]
    rfl

theorem segments_pathOf {texts : List String}
    (inner : ∀ text ∈ texts, text ≠ "" ∧ '/' ∉ text.toList) : segments (pathOf texts) = texts := by
  cases texts with
  | nil => decide
  | cons text rest => exact segments_slashed inner

theorem splitQuery_pathOf {texts : List String} (plain : ∀ text ∈ texts, '?' ∉ text.toList) :
    splitQuery (pathOf texts) = (pathOf texts, none) := by
  cases texts with
  | nil => decide
  | cons text rest => exact splitQuery_slashed plain

end Text

/-! ### Demands -/

/-- There is no argument under a name, or an empty one. -/
def Missing (argument? : String → Option String) (name : String) : Prop :=
  argument? name = none ∨ argument? name = some ""

instance (argument? : String → Option String) : DecidablePred (Missing argument?) :=
  fun name => inferInstanceAs (Decidable (argument? name = none ∨ argument? name = some ""))

theorem missing_congr {first other : String → Option String} {name : String}
    (same : other name = first name) : Missing other name ↔ Missing first name := by
  rw [Missing, Missing, same]

/-- Gives a value unless one of the names has no argument; then it fails with the first of them. -/
def demand {α : Type} (argument? : String → Option String) (names : List String) (value : α) :
    Except ReverseError α :=
  match names.find? fun name => Missing argument? name with
  | some name => .error (.missingArgument name)
  | none => .ok value

section

variable {α β : Type} {argument? : String → Option String}

theorem demand_bind (names : List String) (value : α) (next : α → β) :
    (demand argument? names value >>= fun value => pure (next value))
      = demand argument? names (next value) := by
  rw [demand, demand]
  split <;> rfl

/-- What is demanded for elements one by one is demanded for all of them in turn. -/
theorem mapM_demand {each : α → Except ReverseError β} {names : α → List String} {value : α → β}
    (step : ∀ input, each input = demand argument? (names input) (value input)) (inputs : List α) :
    inputs.mapM each = demand argument? (inputs.flatMap names) (inputs.map value) := by
  induction inputs with
  | nil => rfl
  | cons input rest ih =>
    -- the rest is asked for only if the first element has all that it asks for
    rw [List.mapM_cons, step, ih, demand, demand, demand, List.flatMap_cons, List.find?_append]
    cases (names input).find? fun name => Missing argument? name with
    | some name => rfl
    | none =>
      cases (rest.flatMap names).find? fun name => Missing argument? name <;> rfl

theorem demand_ok_iff {names : List String} {value result : α} :
    demand argument? names value = .ok result
      ↔ (∀ name ∈ names, ¬ Missing argument? name) ∧ value = result := by
  rw [demand]
  split
  next name found =>
    have missing : Missing argument? name := by simpa using List.find?_some found
    refine iff_of_false (by simp) ?_
    rintro ⟨present, -⟩
    exact present name (List.mem_of_find?_eq_some found) missing
  next none =>
    have present : ∀ name ∈ names, ¬ Missing argument? name := by
      simpa using List.find?_eq_none.mp none
    rw [and_iff_right present]
    exact ⟨fun same => Except.ok.inj same, congrArg Except.ok⟩

theorem demand_fails_iff {names : List String} {value : α} :
    (∃ problem, demand argument? names value = .error problem)
      ↔ ∃ name ∈ names, Missing argument? name := by
  constructor
  · rintro ⟨problem, failed⟩
    by_contra! present
    cases failed.symm.trans (demand_ok_iff.mpr ⟨present, rfl⟩)
  · rintro ⟨name, member, missing⟩
    cases result : demand argument? names value with
    | error problem => exact ⟨problem, rfl⟩
    | ok value => exact absurd missing ((demand_ok_iff.mp result).1 name member)

end

/-! ### Rendering -/

namespace ReversePart

/-- The argument under a name, unless it is empty. -/
def given? (argument? : String → Option String) (name : String) : Option String :=
  (argument? name).filter fun value => !value.isEmpty

/-- What a part leaves in a path: nothing where an argument is missing. -/
def filling (argument? : String → Option String) : ReversePart → String
  | .text own => own
  | .argument name _ encoders =>
    ((given? argument? name).map (RouteFunction.applyChain encoders)).getD ""

/-- There is an argument if the part requires one. -/
def Supplied (argument? : String → Option String) : ReversePart → Prop
  | .text _ => True
  | .argument name required _ => required = true → (given? argument? name).isSome = true

/-- The name that a part has to have an argument under. -/
def required : ReversePart → List String
  | .text _ => []
  | .argument name required _ => if required then [name] else []

variable {argument? : String → Option String}

theorem given?_missing {name : String} (missing : Missing argument? name) :
    given? argument? name = none := by
  rw [given?]
  rcases missing with absent | empty
  · rw [absent, Option.filter_none]
  · rw [empty]
    rfl

theorem given?_present {name : String} (present : ¬ Missing argument? name) :
    given? argument? name = some ((argument? name).getD "") := by
  rw [Missing, not_or] at present
  rw [given?]
  cases found : argument? name with
  | none => exact absurd found present.1
  | some value =>
    have filled : value ≠ "" := fun empty => present.2 (by rw [found, empty])
    exact Option.filter_some_pos (by simpa using filled)

theorem supplied_iff (part : ReversePart) :
    part.Supplied argument? ↔ ∀ name ∈ part.required, ¬ Missing argument? name := by
  cases part with
  | text own => simp [Supplied, required]
  | argument name required encoders =>
    rw [Supplied, ReversePart.required]
    by_cases missing : Missing argument? name
    · rw [given?_missing missing]
      cases required <;> simp [missing]
    · rw [given?_present missing]
      cases required <;> simp [missing]

end ReversePart

namespace ReverseRoute

variable {argument? : String → Option String}

/-- The segments of a route with its arguments filled in. -/
def fillings (argument? : String → Option String) (route : ReverseRoute) : List String :=
  route.segments.map fun parts => String.join (parts.map (ReversePart.filling argument?))

/-- The names that a route has to have arguments under, in the order in which it asks for them. -/
def required (route : ReverseRoute) : List String :=
  route.segments.flatMap fun parts => parts.flatMap ReversePart.required

theorem renderPart_eq (part : ReversePart) :
    renderPart argument? part = demand argument? part.required (part.filling argument?) := by
  cases part with
  | text own => rfl
  | argument name required encoders =>
    have given : (argument? name).filter (fun value => !value.isEmpty)
        = ReversePart.given? argument? name := rfl
    rw [renderPart, given, demand, ReversePart.required, ReversePart.filling]
    -- a missing argument matters only where it is required
    by_cases missing : Missing argument? name
    · rw [ReversePart.given?_missing missing]
      cases required <;> simp [missing]
    · rw [ReversePart.given?_present missing]
      cases required <;> simp [missing]

theorem renderSegment_eq (parts : List ReversePart) :
    renderSegment argument? parts = demand argument? (parts.flatMap ReversePart.required)
      (String.join (parts.map (ReversePart.filling argument?))) := by
  rw [renderSegment, mapM_demand renderPart_eq, demand_bind]

/-- Rendering asks for all arguments in turn. -/
theorem render_eq (route : ReverseRoute) :
    route.render argument? = demand argument? route.required
      (Text.pathOf ((route.fillings argument?).filter fun text => !text.isEmpty)) := by
  rw [render, mapM_demand renderSegment_eq, demand_bind, Text.pathOf_eq]
  rfl

/-- A route is rendered if all of its parts are supplied, as the path of its segments that have not
come out empty. -/
theorem render_ok_iff {route : ReverseRoute} {path : String} :
    route.render argument? = .ok path
      ↔ (∀ parts ∈ route.segments, ∀ part ∈ parts, part.Supplied argument?) ∧
        Text.pathOf ((route.fillings argument?).filter fun text => !text.isEmpty) = path := by
  rw [render_eq, demand_ok_iff]
  simp only [required, List.forall_mem_flatMap, ReversePart.supplied_iff]

end ReverseRoute

end Signpost
