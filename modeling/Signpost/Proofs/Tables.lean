import Signpost.Proofs.Arguments
import Signpost.Proofs.Lifecycle
import Signpost.Proofs.Program.Commutation
import Signpost.Proofs.Tree.RouteListing

/-!
# Tables

What the two tables of a router come to, whatever has been put into them. Routes are kept in the order in
which their ids first came up, and an attempt with an id that is there already changes nothing. The paths
to be built are kept in the same order under the same ids. Both tables may be kept with an index of
positions by id; index and entries are inverse to one another then, so looking an id up in the index
finds what a search through the entries finds.
-/
namespace Signpost

/-! ### Attempts -/

namespace RouteTable

/-- A table after an attempt to put a route in, which leaves the table alone if it fails. -/
def attempt (table : RouteTable) (route : Route) : RouteTable :=
  match table.insert route with
  | .ok grown => grown
  | .error _ => table

/-- The table that calls come to, some of which may fail. -/
def attempts (calls : List Route) : RouteTable := calls.foldl attempt {}

/-- A route, if no call in front of it has its id. -/
def first? (before : List Route) (route : Route) : Option Route :=
  if route.id ∈ before.map (·.id) then none else some route

theorem insert_eq (table : RouteTable) (route : Route) :
    table.insert route = if route.id ∈ table.entries.map (·.id) then
      .error (.duplicateRouteId route.id) else .ok ⟨table.entries ++ [route]⟩ := by
  have known : (table.get? route.id).isSome = true ↔ route.id ∈ table.entries.map (·.id) := by
    simp [get?]
  rw [insert]
  simp only [known]

theorem attempt_eq (table : RouteTable) (route : Route) :
    table.attempt route = if route.id ∈ table.entries.map (·.id) then table
      else ⟨table.entries ++ [route]⟩ := by
  by_cases known : route.id ∈ table.entries.map (·.id)
  · rw [attempt, insert_eq, if_pos known, if_pos known]
  · rw [attempt, insert_eq, if_neg known, if_neg known]

theorem attempts_concat (calls : List Route) (last : Route) :
    attempts (calls ++ [last]) = (attempts calls).attempt last := by
  rw [attempts, List.foldl_append]
  rfl

/-- A table has the ids of all calls. -/
theorem mem_attempts_iff {calls : List Route} {id : String} :
    id ∈ (attempts calls).entries.map (·.id) ↔ id ∈ calls.map (·.id) := by
  induction calls using List.reverseRecOn with
  | nil => rfl
  | append_singleton calls last ih =>
    rw [attempts_concat, attempt_eq, List.map_append, List.mem_append, ← ih]
    split
    next known =>
      constructor
      · exact .inl
      · rintro (early | late)
        · exact early
        · cases List.mem_singleton.mp late
          exact known
    next => rw [List.map_append, List.mem_append]

/-- The entries are those whose ids had not come up before, in the order of the calls. -/
theorem attempts_entries (calls : List Route) :
    (attempts calls).entries = throughout first? calls := by
  induction calls using List.reverseRecOn with
  | nil => rfl
  | append_singleton calls last ih =>
    rw [throughout_concat, ← ih, attempts_concat, attempt_eq, first?]
    simp only [mem_attempts_iff]
    split
    · exact (List.append_nil _).symm
    · rfl

theorem attempts_distinct (calls : List Route) : ((attempts calls).entries.map (·.id)).Nodup := by
  induction calls using List.reverseRecOn with
  | nil => exact .nil
  | append_singleton calls last ih =>
    rw [attempts_concat, attempt_eq]
    split
    next => exact ih
    next fresh =>
      rw [List.map_append, List.map_singleton, ← List.concat_eq_append]
      exact List.Nodup.concat fresh ih

/-- An id finds the first route that has come with it. -/
theorem attempts_get? (calls : List Route) (id : String) :
    (attempts calls).get? id = calls.find? (·.id == id) := by
  induction calls using List.reverseRecOn with
  | nil => rfl
  | append_singleton calls last ih =>
    rw [attempts_concat, attempt_eq, List.find?_append, ← ih]
    split
    next known =>
      by_cases same : last.id = id
      · -- the id has an entry already, so the last route is not looked at
        have there : ((attempts calls).get? id).isSome = true := by
          obtain ⟨entry, member, named⟩ := List.mem_map.mp known
          exact List.find?_isSome.mpr ⟨entry, member, by simp [named, same]⟩
        obtain ⟨entry, found⟩ := Option.isSome_iff_exists.mp there
        rw [found, Option.some_or]
      · have other : [last].find? (·.id == id) = none := by simp [same]
        rw [other, Option.or_none]
    next => exact List.find?_append

end RouteTable

/-! ### Indexes -/

theorem getElem?_concat_iff {α : Type} {entries : List α} {last entry : α} {position : Nat} :
    (entries ++ [last])[position]? = some entry ↔
      entries[position]? = some entry ∨ position = entries.length ∧ last = entry := by
  rcases Nat.lt_trichotomy position entries.length with inside | rfl | outside
  · rw [List.getElem?_append_left inside]
    simp [Nat.ne_of_lt inside]
  · simp
  · have missing : (entries ++ [last])[position]? = none := by
      rw [List.getElem?_eq_none_iff, List.length_append, List.length_singleton]
      omega
    simp [missing, Nat.le_of_lt outside, Nat.ne_of_gt outside]

/-- Entries in order, with the position of each under its id. -/
structure Indexed (α : Type) where
  entries : List α := []
  positions : Std.HashMap String Nat := {}

namespace Indexed

variable {α : Type} {name : α → String} {table : Indexed α}

def add (table : Indexed α) (id : String) (entry : α) : Indexed α :=
  ⟨table.entries ++ [entry], table.positions.insert id table.entries.length⟩

def get? (table : Indexed α) (id : String) : Option α :=
  table.positions[id]?.bind fun position => table.entries[position]?

/-- The positions lead from ids to entries with these ids, and every entry stands at the position of its
id. -/
def Inverse (name : α → String) (table : Indexed α) : Prop :=
  ∀ (id : String) (position : Nat),
    table.positions[id]? = some position ↔ table.entries[position]?.map name = some id

theorem Inverse.empty : Inverse name {} := by
  intro id position
  simp

theorem Inverse.contains_iff (inverse : table.Inverse name) {id : String} :
    table.positions.contains id = true ↔ id ∈ table.entries.map name := by
  rw [Std.HashMap.contains_eq_isSome_getElem?, Option.isSome_iff_exists, List.mem_iff_getElem?]
  refine exists_congr fun position => ?_
  rw [inverse, List.getElem?_map]

/-- An entry with a new id gets the next position. -/
theorem Inverse.add (inverse : table.Inverse name) {entry : α}
    (fresh : name entry ∉ table.entries.map name) :
    (table.add (name entry) entry).Inverse name := by
  intro id position
  rw [Indexed.add, Std.HashMap.getElem?_insert, ← List.getElem?_map, List.map_append,
    List.map_singleton, getElem?_concat_iff, List.length_map, List.getElem?_map, ← inverse]
  -- the new position is past all others, and the id of the entry has had none before
  by_cases same : name entry = id
  · subst same
    have unknown : table.positions[name entry]? = none := by
      rw [← Option.not_isSome_iff_eq_none, ← Std.HashMap.contains_eq_isSome_getElem?,
        inverse.contains_iff]
      exact fresh
    simp [unknown, eq_comm]
  · simp [same]

/-- What an index finds is what a search finds. -/
theorem Inverse.get? (inverse : table.Inverse name) (id : String) :
    table.get? id = table.entries.find? fun entry => name entry == id := by
  cases found : table.entries.find? fun entry => name entry == id with
  | none =>
    have unknown : table.positions[id]? = none := by
      rw [← Option.not_isSome_iff_eq_none, ← Std.HashMap.contains_eq_isSome_getElem?,
        inverse.contains_iff]
      simpa using List.find?_eq_none.mp found
    rw [Indexed.get?, unknown]
    rfl
  | some entry =>
    obtain ⟨position, there⟩ := List.mem_iff_getElem?.mp (List.mem_of_find?_eq_some found)
    have named : name entry = id := by simpa using List.find?_some found
    have known : table.positions[id]? = some position := by
      rw [inverse, there, ← named]
      rfl
    rw [Indexed.get?, known]
    exact there

/-- A table with an index holds entries, and an id finds its entry. -/
structure Lists (table : Indexed α) (name : α → String) (entries : List α) : Prop where
  same : table.entries = entries
  inverse : table.Inverse name
  finds : ∀ id, table.get? id = entries.find? fun entry => name entry == id

theorem Inverse.lists (inverse : table.Inverse name) : table.Lists name table.entries :=
  ⟨rfl, inverse, inverse.get?⟩

/-- Tables with the same ids in the same order have the same positions. -/
theorem Inverse.positions_eq {β : Type} {label : β → String} {other : Indexed β}
    (inverse : table.Inverse name) (inverse' : other.Inverse label)
    (same : table.entries.map name = other.entries.map label) (id : String) :
    table.positions[id]? = other.positions[id]? := by
  refine Option.ext fun position => ?_
  rw [inverse, inverse', ← List.getElem?_map, ← List.getElem?_map, same]

end Indexed

theorem ReverseRoute.compile_stated {functions : FunctionRegistry} {route : Route}
    {turned : ReverseRoute} (compiled : compile functions route = .ok turned) :
    turned.id = route.id ∧ turned.template = routeTemplate route.patterns := by
  obtain ⟨segments, -, equal⟩ := bind_ok_iff.mp compiled
  cases equal
  exact ⟨rfl, rfl⟩

/-! ### Tables with an index -/

namespace Indexed

/-- Puts a route in, unless its id has a position already, and then the table is as it was. -/
def insert (table : Indexed Route) (route : Route) : Except TreeError Unit × Indexed Route :=
  if table.positions.contains route.id then (.error (.duplicateRouteId route.id), table)
  else (.ok (), table.add route.id route)

/-- The table that calls come to, some of which may fail. -/
def attempts (calls : List Route) : Indexed Route :=
  calls.foldl (fun table route => (table.insert route).2) {}

/-- Adds the routes of a table, made ready for building paths. -/
def compile (functions : FunctionRegistry) (table : Indexed ReverseRoute) (routes : List Route) :
    Except ProgramError (Indexed ReverseRoute) :=
  routes.foldlM (fun table route => return table.add route.id (← ReverseRoute.compile functions route))
    table

theorem attempts_concat (calls : List Route) (last : Route) :
    attempts (calls ++ [last]) = ((attempts calls).insert last).2 := by
  rw [attempts, List.foldl_append]
  rfl

/-- With an index a table takes the same routes as without. -/
theorem attempts_lists (calls : List Route) :
    (attempts calls).Lists Route.id (RouteTable.attempts calls).entries := by
  induction calls using List.reverseRecOn with
  | nil => exact Inverse.empty.lists
  | append_singleton calls last ih =>
    rw [attempts_concat, insert, RouteTable.attempts_concat, RouteTable.attempt_eq, ← ih.same]
    simp only [ih.inverse.contains_iff]
    by_cases known : last.id ∈ (attempts calls).entries.map Route.id
    · rw [if_pos known, if_pos known]
      exact ih
    · rw [if_neg known, if_neg known]
      exact (ih.inverse.add known).lists

/-- With an index a call succeeds or fails as without. -/
theorem insert_attempts (calls : List Route) (route : Route) :
    (attempts calls).insert route
      = (((RouteTable.attempts calls).insert route).map fun _ => (), attempts (calls ++ [route])) := by
  have lists := attempts_lists calls
  rw [attempts_concat, RouteTable.insert_eq, insert, ← lists.same]
  by_cases known : route.id ∈ (attempts calls).entries.map Route.id
  · rw [if_pos (lists.inverse.contains_iff.mpr known), if_pos known]
    rfl
  · rw [if_neg fun found => known (lists.inverse.contains_iff.mp found), if_neg known]
    rfl

/-- With an index routes are turned round as without. -/
theorem compile_entries (functions : FunctionRegistry) (table : Indexed ReverseRoute)
    (routes : List Route) :
    (table.compile functions routes).map (·.entries)
      = (routes.mapM (ReverseRoute.compile functions)).map (table.entries ++ ·) := by
  induction routes generalizing table with
  | nil =>
    rw [List.mapM_nil]
    exact congrArg Except.ok (List.append_nil _).symm
  | cons route rest ih =>
    rw [compile, List.foldlM_cons, List.mapM_cons]
    cases ReverseRoute.compile functions route with
    | error problem => rfl
    | ok turned =>
      refine (ih (table.add route.id turned)).trans ?_
      change _ = Except.map _ (rest.mapM (ReverseRoute.compile functions) >>= fun others =>
        pure (turned :: others))
      cases rest.mapM (ReverseRoute.compile functions) with
      | error problem => rfl
      | ok others => exact congrArg Except.ok (List.append_cons ..).symm

theorem compile_inverse {functions : FunctionRegistry} {table turned : Indexed ReverseRoute}
    {routes : List Route} (inverse : table.Inverse ReverseRoute.id)
    (fresh : ∀ route ∈ routes, route.id ∉ table.entries.map ReverseRoute.id)
    (distinct : (routes.map (·.id)).Nodup) (done : table.compile functions routes = .ok turned) :
    turned.Inverse ReverseRoute.id := by
  induction routes generalizing table with
  | nil => exact pure_ok_iff.mp done ▸ inverse
  | cons route rest ih =>
    obtain ⟨here, later⟩ := List.forall_mem_cons.mp fresh
    rw [List.map_cons, List.nodup_cons] at distinct
    rw [compile, List.foldlM_cons, bind_ok_iff] at done
    obtain ⟨middle, added, done⟩ := done
    obtain ⟨first, compiled, equal⟩ := bind_ok_iff.mp added
    cases equal
    have named : first.id = route.id := (ReverseRoute.compile_stated compiled).1
    -- the ids of the routes behind are neither in the table nor that of the route just added
    refine ih (named ▸ inverse.add (named ▸ here)) ?_ distinct.2 done
    intro other member known
    rw [add, List.map_append, List.mem_append, List.map_singleton, List.mem_singleton, named] at known
    rcases known with early | same
    · exact later other member early
    · exact distinct.1 (same ▸ List.mem_map_of_mem member)

/-- With an index the paths to be built have the positions of their routes. -/
theorem compile_positions {functions : FunctionRegistry} {table : Indexed Route}
    {turned : Indexed ReverseRoute} (inverse : table.Inverse Route.id)
    (distinct : (table.entries.map Route.id).Nodup)
    (done : compile functions {} table.entries = .ok turned) :
    turned.Lists ReverseRoute.id turned.entries ∧
      ∀ id : String, turned.positions[id]? = table.positions[id]? := by
  have inverse' := compile_inverse .empty (by simp) distinct done
  have entries := compile_entries functions {} table.entries
  rw [done] at entries
  refine ⟨inverse'.lists, inverse'.positions_eq inverse ?_⟩
  cases made : table.entries.mapM (ReverseRoute.compile functions) with
  | error problem =>
    rw [made] at entries
    cases entries
  | ok routes =>
    rw [made] at entries
    have listed : turned.entries = routes := Except.ok.inj entries
    rw [listed]
    exact mapM_ok_map made fun route _ turned done => (ReverseRoute.compile_stated done).1

end Indexed

/-! ### Both tables -/

/-- The entries of two lists that are found under one id have been made from one another. -/
theorem find?_related {α β : Type} {related : α → β → Prop} {inputs : List α} {outputs : List β}
    {first : α → Bool} {second : β → Bool} (all : List.Forall₂ related inputs outputs)
    (same : ∀ input output, related input output → second output = first input) :
    Option.Rel related (inputs.find? first) (outputs.find? second) := by
  induction all with
  | nil => exact .none
  | cons here _ ih =>
    rw [List.find?_cons, List.find?_cons, same _ _ here]
    split
    · exact .some here
    · exact ih

/-- The paths to be built stand under the ids of their routes, in the same order, and an id finds what its
route has been made into. -/
structure ReverseTable.InStep (functions : FunctionRegistry) (table : RouteTable)
    (reverse : ReverseTable) : Prop where
  ids : reverse.routes.map (·.id) = table.entries.map (·.id)
  missing : ∀ id, table.get? id = none → reverse.get id = .error (.noSuchPath id)
  found : ∀ id route, table.get? id = some route → ∃ turned, reverse.get id = .ok turned ∧
    ReverseRoute.compile functions route = .ok turned ∧
    turned.template = routeTemplate route.patterns ∧
    turned.parameters = route.patterns.flatMap fun pattern => pattern.required.map (·.name)

theorem ReverseTable.compile_inStep {functions : FunctionRegistry} {table : RouteTable}
    {reverse : ReverseTable} (compiled : compile functions table = .ok reverse) :
    reverse.InStep functions table := by
  have ids := compile_ids compiled
  obtain ⟨routes, turned, equal⟩ := bind_ok_iff.mp compiled
  cases equal
  have found (id : String) : Option.Rel (fun route made => ReverseRoute.compile functions route = .ok made)
      (table.get? id) (routes.find? (·.id == id)) :=
    find?_related (mapM_ok_iff.mp turned) fun route made done => by
      rw [(ReverseRoute.compile_stated done).1]
  refine ⟨ids, fun id missing => ?_, fun id route known => ?_⟩
  · have both := found id
    rw [missing] at both
    rw [get]
    generalize routes.find? (·.id == id) = there at both ⊢
    cases both
    rfl
  · have both := found id
    rw [known] at both
    rw [get]
    generalize routes.find? (·.id == id) = there at both ⊢
    cases both with
    | some done =>
      exact ⟨_, rfl, done, (ReverseRoute.compile_stated done).2, ReverseRoute.compile_parameters done⟩

/-- The tables of routes and of paths stay in step. After any calls, some of which may have failed, a call
succeeds exactly if its id is new, and otherwise it leaves the table as it is. The entries are the first
routes of all ids in the order of the calls, and an id finds its entry. If the routes can be turned round,
the table of paths is in step with them. Tables that are kept with an index of positions hold the same
entries and answer alike; index and entries are inverse to one another, and both indexes are the same. -/
theorem tables_in_step (calls : List Route) :
    (∀ route, (RouteTable.attempts calls).insert route
      = if route.id ∈ calls.map (·.id) then .error (.duplicateRouteId route.id)
        else .ok (RouteTable.attempts (calls ++ [route]))) ∧
    (∀ route : Route, route.id ∈ calls.map (·.id) →
      RouteTable.attempts (calls ++ [route]) = RouteTable.attempts calls) ∧
    (RouteTable.attempts calls).entries = throughout RouteTable.first? calls ∧
    (∀ id, (RouteTable.attempts calls).get? id = calls.find? (·.id == id)) ∧
    (∀ functions reverse,
      ReverseTable.compile functions (RouteTable.attempts calls) = .ok reverse →
        reverse.InStep functions (RouteTable.attempts calls)) ∧
    (Indexed.attempts calls).Lists Route.id (RouteTable.attempts calls).entries ∧
    (∀ route, (Indexed.attempts calls).insert route
      = (((RouteTable.attempts calls).insert route).map fun _ => (),
        Indexed.attempts (calls ++ [route]))) ∧
    ∀ functions,
      (Indexed.compile functions {} (Indexed.attempts calls).entries).map (·.entries)
        = (ReverseTable.compile functions (RouteTable.attempts calls)).map (·.routes) ∧
      ∀ turned, Indexed.compile functions {} (Indexed.attempts calls).entries = .ok turned →
        turned.Lists ReverseRoute.id turned.entries ∧
        ∀ id : String, turned.positions[id]? = (Indexed.attempts calls).positions[id]? := by
  have extended (route : Route) := RouteTable.attempts_concat calls route
  simp only [RouteTable.attempt_eq, RouteTable.mem_attempts_iff] at extended
  have lists := Indexed.attempts_lists calls
  refine ⟨fun route => ?_, fun route known => ?_, RouteTable.attempts_entries calls,
    RouteTable.attempts_get? calls, fun _ _ => ReverseTable.compile_inStep, lists,
    Indexed.insert_attempts calls, fun functions => ⟨?_, fun turned => ?_⟩⟩
  · rw [RouteTable.insert_eq, extended]
    simp only [RouteTable.mem_attempts_iff]
    split <;> rfl
  · rw [extended, if_pos known]
  · rw [Indexed.compile_entries, lists.same, ReverseTable.compile]
    cases (RouteTable.attempts calls).entries.mapM (ReverseRoute.compile functions) <;> rfl
  · apply Indexed.compile_positions lists.inverse
    rw [lists.same]
    exact RouteTable.attempts_distinct calls

end Signpost
