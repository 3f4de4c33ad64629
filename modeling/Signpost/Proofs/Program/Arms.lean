import Signpost.Proofs.Program.Course
import Signpost.Proofs.Tree.Conflicts

/-!
# Arms of literals

The lookup of a literal dispatch keeps one position for every literal. Nothing is lost by that: the
arms of a dispatch are made from the literals of one level of the tree, and these differ. So the
lookup finds the arm that a search through all arms would find, and it finds every arm.
-/
namespace Signpost

/-- An instruction stands in code, or in a body that an instruction of the code holds. -/
inductive StandsIn (instruction : Instruction) : List Instruction → Prop
  | here {code : List Instruction} (among : instruction ∈ code) : StandsIn instruction code
  | within {code body : List Instruction} {outer : Instruction} (among : outer ∈ code)
    (held : body ∈ outer.bodies) (deeper : StandsIn instruction body) : StandsIn instruction code

namespace Program

open Emission

section

variable {setting : Setting} {depth : Nat} {tree : LevelTree} {moved : Bool}
  {code rest body : List Instruction} {instruction : Instruction}

/-- What is left of a body at one of its instructions. -/
theorem left_from (left : Left setting depth tree moved code) (among : instruction ∈ code) :
    ∃ moved' rest, Left setting depth tree moved' (instruction :: rest) := by
  induction left with
  | nothing => cases among
  | scope inside =>
    cases List.mem_singleton.mp among
    exact ⟨false, [], .scope inside⟩
  | control below made later ih =>
    rcases List.mem_cons.mp among with rfl | behind
    · exact ⟨false, _, .control below made later⟩
    · exact ih behind
  | advance later ih =>
    rcases List.mem_cons.mp among with rfl | behind
    · exact ⟨false, _, .advance later⟩
    · exact ih behind
  | literals picks later ih =>
    rcases List.mem_cons.mp among with rfl | behind
    · exact ⟨true, _, .literals picks later⟩
    · exact ih behind
  | patterns merged picks later ih =>
    rcases List.mem_cons.mp among with rfl | behind
    · exact ⟨true, _, .patterns merged picks later⟩
    · exact ih behind
  | retreat later ih =>
    rcases List.mem_cons.mp among with rfl | behind
    · exact ⟨true, _, .retreat later⟩
    · exact ih behind
  | «return» below made later ih =>
    rcases List.mem_cons.mp among with rfl | behind
    · exact ⟨false, _, .return below made later⟩
    · exact ih behind

/-- Wherever an instruction stands in the code of a node, it is the next one of what is left of the
body of some node. -/
theorem left_of_standsIn {arena : Arena} (linked : arena.Linked) (stands : StandsIn instruction code)
    (left : Left setting depth tree moved code) (mirrors : tree.Mirrors arena)
    (counted : depth = arena.pathDepth tree.id) :
    ∃ (node : LevelTree) (depth : Nat) (moved : Bool) (rest : List Instruction),
      node.Mirrors arena ∧ Left setting depth node moved (instruction :: rest) := by
  induction stands generalizing depth tree moved with
  | here among =>
    obtain ⟨moved', rest, here⟩ := left_from left among
    exact ⟨tree, depth, moved', rest, mirrors, here⟩
  | within among held _ ih =>
    obtain ⟨moved', rest, here⟩ := left_from left among
    obtain ⟨inside, deeper, nests⟩ := nests_of_held here held
    obtain ⟨mirrored, counted⟩ := nests.mirrors linked mirrors counted
    exact ih nests.left mirrored counted

/-- The literals of arms are those of the members that they have been made from. -/
theorem arms_literals {members : List LevelTree} {arms : List (String × List Instruction)}
    (picks : Picks (·.kind.literal? = none) (LiteralCode setting depth) members arms) :
    arms.map (·.1) = members.filterMap (·.kind.literal?) := by
  induction picks with
  | nil => rfl
  | skip textless _ ih => rw [List.filterMap_cons, textless, ih]
  | take made _ ih =>
    obtain ⟨kind, -⟩ := made
    rw [List.filterMap_cons, kind, List.map_cons, ih]

theorem mirrors_literals {arena : Arena} (mirrors : tree.Mirrors arena) :
    tree.members.filterMap (·.kind.literal?) = arena.levelLiterals tree.id := by
  rw [Arena.levelLiterals, ← mirrors.members, List.filterMap_map]
  refine List.filterMap_congr ?_
  intro member below
  rw [Function.comp_apply, (mirrors.mirrored member below).kind]

end

theorem literalLookup_none_iff (arms : List (String × List Instruction)) (segment : String) :
    (literalLookup arms).lookup segment = none ↔ segment ∉ arms.map (·.1) := by
  rw [literalLookup_eq, List.findIdx?_eq_none_iff, List.mem_map]
  constructor
  · rintro none ⟨arm, among, rfl⟩
    simpa using none arm among
  · intro absent arm among
    exact beq_eq_false_iff_ne.mpr fun equal => absent ⟨arm, among, equal⟩

/-- If literals differ, the arm of each of them is found, and nothing else. -/
theorem literalLookup_iff {arms : List (String × List Instruction)}
    (apart : (arms.map (·.1)).Nodup) (segment : String) (position : Nat) :
    (literalLookup arms).lookup segment = some position ↔
      ∃ body, arms[position]? = some (segment, body) := by
  rw [literalLookup_eq, List.findIdx?_eq_some_iff_getElem]
  constructor
  · rintro ⟨inside, same, -⟩
    refine ⟨arms[position].2, ?_⟩
    rw [List.getElem?_eq_getElem inside, ← beq_iff_eq.mp same]
  · rintro ⟨body, there⟩
    obtain ⟨inside, here⟩ := List.getElem?_eq_some_iff.mp there
    refine ⟨inside, by simp [here], ?_⟩
    intro earlier before
    have different := List.pairwise_iff_getElem.mp apart earlier position
      (by simpa using Nat.lt_trans before inside) (by simpa using inside) before
    simpa [here] using different

/-- A run enters the arm whose literal is the segment, and no other one. -/
theorem literals_entry_iff {arms : List (String × List Instruction)}
    (apart : (arms.map (·.1)).Nodup) (request : Request) (state : MachineState) (index : Nat)
    (body : List Instruction) :
    Machine.entry request state (.literals index arms (literalLookup arms)) = .body false state body ↔
      ∃ segment, Machine.current? request state index = some segment ∧ (segment, body) ∈ arms := by
  rw [Machine.entry]
  cases Machine.current? request state index with
  | none => simp
  | some segment =>
    rw [Option.bind_some]
    cases looked : (literalLookup arms).lookup segment with
    | none =>
      have absent : segment ∉ arms.map (·.1) := (literalLookup_none_iff arms segment).mp looked
      have unnamed : (segment, body) ∉ arms := fun among => absent (List.mem_map_of_mem among)
      simpa using unnamed
    | some position =>
      obtain ⟨own, there⟩ := (literalLookup_iff apart segment position).mp looked
      -- no other arm has the literal, so the body at its position is the only one it can enter
      have found : (segment, body) ∈ arms ↔ own = body := by
        constructor
        · intro among
          obtain ⟨other, here⟩ := List.mem_iff_getElem?.mp among
          have same := (literalLookup_iff apart segment other).mpr ⟨body, here⟩
          rw [looked] at same
          cases same
          rw [there] at here
          cases here
          rfl
        · rintro rfl
          exact List.mem_of_getElem? there
      simp [there, found]

/-! ### Programs of trees -/

/-- No two literal paths of one level have the same text, whatever put them there: for every node of a
tree that is built, blocks included, the literals of its level differ, and every path that is not
parameterized has one. The arms of a literal dispatch are those literals, so its lookup finds the arm
of every one of them where it stands among the arms and finds no other text, as a search through the
arms does, and a run enters exactly the arm whose literal is the segment. -/
theorem literals_apart {spec : SpecNode} {tree : RouteTree} (built : RouteTree.build spec = .ok tree) :
    (∀ id : NodeId, (tree.arena.levelLiterals id).Nodup ∧ ∀ member ∈ tree.arena.level id,
      ∀ pattern route, (tree.arena.node member).kind = .path pattern route →
        ∃ literal, pattern.literal? = some literal) ∧
    ∀ functions limit program, ofTree functions limit tree = .ok program →
      ∀ index arms lookup, StandsIn (.literals index arms lookup) program.entry →
        (∃ id : NodeId, arms.map (·.1) = tree.arena.levelLiterals id) ∧ (arms.map (·.1)).Nodup ∧
        (∀ segment, lookup.lookup segment = arms.findIdx? (·.1 == segment) ∧
          (∀ position, lookup.lookup segment = some position ↔
            ∃ body, arms[position]? = some (segment, body)) ∧
          (lookup.lookup segment = none ↔ segment ∉ arms.map (·.1))) ∧
        ∀ request state body,
          Machine.entry request state (.literals index arms lookup) = .body false state body ↔
            ∃ segment, Machine.current? request state index = some segment ∧
              (segment, body) ∈ arms := by
  have apart := RouteTree.build_apart built
  refine ⟨fun id => ⟨apart.literals_nodup id, ?_⟩, ?_⟩
  · intro member _ pattern route path
    have spelled := RouteTree.build_spelled built member pattern route path
    rwa [path] at spelled
  · intro functions limit program compiled index arms lookup stands
    have linked := RouteTree.build_linked built
    have inside : Arena.root < tree.arena.size := (RouteTree.build_steps built).size_le
    have mirrors := Arena.levels_mirrors linked inside
    have top : 0 = tree.arena.pathDepth (tree.arena.subtree Arena.root).levels.id := by
      rw [Arena.levels_id, pathDepth_root built]
    obtain ⟨node, depth, moved, rest, mirrored, left⟩ :=
      left_of_standsIn linked stands (emitBody_left (ofTree_yields compiled)) mirrors top
    cases left with
    | control _ made => cases made
    | «return» _ made => cases made
    | literals picks =>
      have same : arms.map (·.1) = tree.arena.levelLiterals node.id :=
        (arms_literals picks).trans (mirrors_literals mirrored)
      have different : (arms.map (·.1)).Nodup := same ▸ apart.literals_nodup node.id
      refine ⟨⟨node.id, same⟩, different, ?_, ?_⟩
      · intro segment
        exact ⟨literalLookup_eq arms segment, literalLookup_iff different segment,
          literalLookup_none_iff arms segment⟩
      · intro request state body
        exact literals_entry_iff different request state index body

/-- Literals from a path, from nested groups, from a path with two segments and from a block. -/
def aisleSpec : SpecNode :=
  SpecNode.router.withChildren
    [(SpecNode.block "exits").withChild ((SpecNode.path "out").withChild SpecNode.returning),
      (SpecNode.path "left").withChild SpecNode.returning,
      SpecNode.group.withChildren
        [SpecNode.group.withChild ((SpecNode.path "right/\x7bshelf\x7d").withChild
          SpecNode.returning),
          SpecNode.reference "exits"],
      (SpecNode.path "\x7baisle:int\x7d").withChild SpecNode.returning]

theorem literals_apart_aisle : ∃ tree program,
    RouteTree.build aisleSpec = .ok tree ∧ ofTree .builtin 100 tree = .ok program ∧
    tree.arena.levelLiterals Arena.root = ["left", "right", "out"] ∧
    (∀ id : NodeId, (tree.arena.levelLiterals id).Nodup) ∧
    ∃ index arms lookup, StandsIn (.literals index arms lookup) program.entry ∧
      ∀ segment, lookup.lookup segment = arms.findIdx? (·.1 == segment) := by
  have succeeds : ((RouteTree.build aisleSpec).toOption.bind fun tree =>
      (ofTree .builtin 100 tree).toOption.filter fun program =>
        tree.arena.levelLiterals Arena.root = ["left", "right", "out"] ∧
          program.entry.any fun
            | .literals .. => true
            | _ => false).isSome = true := by decide +kernel
  obtain ⟨program, found⟩ := Option.isSome_iff_exists.mp succeeds
  obtain ⟨tree, built, compiled⟩ := Option.bind_eq_some_iff.mp found
  obtain ⟨compiled, checked⟩ := Option.filter_eq_some_iff.mp compiled
  obtain ⟨level, dispatches⟩ := of_decide_eq_true checked
  have built := ok_of_toOption built
  have compiled := ok_of_toOption compiled
  obtain ⟨nodes, dispatch⟩ := literals_apart built
  obtain ⟨instruction, among, literal⟩ := List.any_eq_true.mp dispatches
  refine ⟨tree, program, built, compiled, level, fun id => (nodes id).1, ?_⟩
  cases instruction with
  | literals index arms lookup =>
    have stands : StandsIn (.literals index arms lookup) program.entry := .here among
    obtain ⟨-, -, lookups, -⟩ := dispatch _ _ program compiled index arms lookup stands
    exact ⟨index, arms, lookup, stands, fun segment => (lookups segment).1⟩
  | _ => cases literal

end Program

end Signpost
