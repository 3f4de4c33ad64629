import Signpost.Proofs.Program.Passage
import Signpost.Proofs.Reverse
import Signpost.Router

/-!
# Round trips

A router is compiled from a chain of segments whose return hands on what the placeholders take. A
path that it builds leads back to that return, and its fields are the arguments as they have been
encoded.
-/
namespace Signpost

/-! ### What a router makes of a path -/

theorem Router.segments_path {router : Router} (defaults : router.options = {}) {texts : List String}
    (present : texts ≠ [])
    (inner : ∀ text ∈ texts, text ≠ "" ∧ ∀ c ∈ text.toList, c ≠ '/' ∧ c ≠ '?') :
    (router.request (router.pathAttributes (Text.slashed texts))).segments = texts := by
  -- the path is the text of the first name of the options
  have attributes : router.pathAttributes (Text.slashed texts)
      = .ofList [("PATH_INFO", Text.slashed texts)] := by
    rw [Router.pathAttributes, defaults]
    rfl
  have nonempty : (Text.slashed texts).isEmpty = false := by
    rw [String.isEmpty_eq_false_iff]
    exact Text.slashed_ne_empty present
  have raw : Request.rawPath (.ofList [("PATH_INFO", Text.slashed texts)])
      ["PATH_INFO", "REQUEST_URI"] = Text.slashed texts := by
    have stated : (Attributes.ofList [("PATH_INFO", Text.slashed texts)]).get? "PATH_INFO"
        = some (Text.slashed texts) := rfl
    rw [Request.rawPath, List.findSome?_cons, stated, Option.filter_some_pos (by simp [nonempty])]
    rfl
  have unqueried := Text.splitQuery_slashed fun text member unexpected =>
    ((inner text member).2 '?' unexpected).2 rfl
  have cut := Text.segments_slashed fun text member =>
    ⟨(inner text member).1, fun unexpected => ((inner text member).2 '/' unexpected).1 rfl⟩
  rw [Router.request, attributes, defaults, Request.ofAttributes]
  dsimp only
  rw [raw, unqueried]
  exact cut

namespace Segment

/-- The router of a chain passes its segments, and turns them round. -/
theorem compile_document (id : String) {segments : List Segment} (present : segments ≠ []) :
    ∃ router, Router.compile (document id segments) {} .builtin = .ok router ∧
      router.options = {} ∧ router.reverse = ⟨[reverseRoute id segments]⟩ ∧
      Program.Passage router.options.regexGroupLimit (fields segments) segments 0 []
        router.program.entry := by
  obtain ⟨tree, built, routes, visible, leads⟩ := build_document id present
  obtain ⟨program, compiled, passage⟩ :=
    Program.ofTree_passage leads .builtin ({} : Options).regexGroupLimit
  have turned : ReverseTable.compile .builtin tree.routes = .ok ⟨[reverseRoute id segments]⟩ := by
    rw [routes]
    exact compile_reverse id segments
  rw [visible] at passage
  refine ⟨⟨program, tree.routes, ⟨[reverseRoute id segments]⟩, {}⟩, ?_, rfl, rfl, passage⟩
  refine bind_ok_iff.mpr ⟨(), rfl, ?_⟩
  refine bind_ok_iff.mpr ⟨tree, mapError_ok_iff.mpr built, ?_⟩
  refine bind_ok_iff.mpr ⟨program, mapError_ok_iff.mpr compiled, ?_⟩
  exact bind_ok_iff.mpr ⟨_, mapError_ok_iff.mpr turned, rfl⟩

/-! ### What the return says -/

theorem contains_fields (segments : List Segment) (name : String) :
    (fields segments).contains name ↔ ∃ slot ∈ slots segments, slot.name = name := by
  rw [fields, Attributes.contains_ofList, List.map_map, List.mem_map]
  rfl

theorem lookup_values (value : String → String) (names : List String) (name : String) :
    (names.map fun name => (name, value name)).lookup name
      = if name ∈ names then some (value name) else none := by
  induction names with
  | nil => rfl
  | cons first rest ih =>
    rw [List.map_cons, Attributes.lookup_cons, ih]
    by_cases same : name = first <;> simp [same]

/-- On the path of filled segments the return is met and hands the values on. -/
theorem routePath_filled {router : Router} {segments : List Segment} {value : String → String}
    (defaults : router.options = {}) (passage : Program.Passage router.options.regexGroupLimit
      (fields segments) segments 0 [] router.program.entry)
    (present : segments ≠ []) (fills : Fills value segments)
    (admitted : ∀ slot ∈ slots segments, ∀ c ∈ (value slot.name).toList, slot.valueType.admits c) :
    (router.routePath (Text.slashed (segments.map (filled value)))).outcome
      = .ofFields (Program.returned value (fields segments)) := by
  let request := router.request (router.pathAttributes (Text.slashed (segments.map (filled value))))
  have ahead : request.segments = segments.map (filled value) := by
    apply Router.segments_path defaults (by simpa using present)
    intro text member
    obtain ⟨segment, among, rfl⟩ := List.mem_map.mp member
    exact filled_inner fills segment among
  have suited : ∀ slot ∈ slots segments,
      value slot.name ≠ "" ∧ ∀ c ∈ (value slot.name).toList, slot.valueType.admits c :=
    fun slot member => ⟨(fills slot member).1, admitted slot member⟩
  have stated : ∀ entry ∈ (fields segments).entries,
      entry.1 ∈ [] ∨ ∃ slot ∈ slots segments, slot.name = entry.1 := by
    intro entry member
    rw [← contains_fields, Attributes.contains_iff]
    exact .inr (List.mem_map_of_mem member)
  have ran := @Program.Passage.run request {} value _ _ _ _ _ _ passage rfl ahead suited (by simp)
    stated
  change (Machine.runBody request {} router.program.entry).1.getD .notFound = _
  rw [ran, Option.getD_some]

/-- The outcome has the values of the placeholders, and nothing else but a code. -/
theorem returned_get? (value : String → String) (segments : List Segment) (name : String) :
    (Outcome.ofFields (Program.returned value (fields segments))).fields.get? name
      = if ∃ slot ∈ slots segments, slot.name = name then some (value name)
        else if name = "code" then some "200" else none := by
  have stated : ((fields segments).entries.map fun entry => (entry.1, value entry.1)).reverse.lookup
      name = if ∃ slot ∈ slots segments, slot.name = name then some (value name) else none := by
    have names : ((fields segments).entries.map fun entry => (entry.1, value entry.1)).reverse
        = ((fields segments).entries.map (·.1)).reverse.map fun name => (name, value name) := by
      simp [Function.comp_def]
    rw [names, lookup_values]
    simp only [List.mem_reverse, ← Attributes.contains_iff, contains_fields]
  rw [Outcome.ofFields, Attributes.get?_ofList, Program.returned]
  split
  next own =>
    rw [stated]
    -- a placeholder that is called like the code takes its field
    by_cases inside : ∃ slot ∈ slots segments, slot.name = name
    · rw [if_pos inside, if_pos inside]
    · have other : name ≠ "code" := by
        rintro rfl
        exact inside ((contains_fields segments "code").mp own)
      rw [if_neg inside, if_neg inside, if_neg other]
  next =>
    -- the last entry of a name counts, so the code in front would give way to a placeholder
    rw [List.reverse_cons, List.lookup_append, stated, Attributes.lookup_cons]
    split <;> rfl

/-! ### There and back -/

/-- Arguments for all placeholders, which their types admit as they are encoded. -/
def Suits (arguments : Attributes) (segments : List Segment) : Prop :=
  ∀ slot ∈ slots segments, ∃ text, arguments.get? slot.name = some text ∧ text ≠ "" ∧
    ∀ c ∈ (Text.Percent.encode text).toList, slot.valueType.admits c

/-- What stands in a path for the argument with a name. -/
def encoded (arguments : Attributes) (name : String) : String :=
  Text.Percent.encode ((arguments.get? name).getD "")

theorem Suits.encoded {arguments : Attributes} {segments : List Segment}
    (suits : Suits arguments segments) {slot : Slot} (member : slot ∈ slots segments) :
    ∃ text, arguments.get? slot.name = some text ∧ text ≠ "" ∧
      Segment.encoded arguments slot.name = Text.Percent.encode text ∧
      ∀ c ∈ (Segment.encoded arguments slot.name).toList, slot.valueType.admits c := by
  obtain ⟨text, given, nonempty, admitted⟩ := suits slot member
  have same : Segment.encoded arguments slot.name = Text.Percent.encode text := by
    rw [Segment.encoded, given, Option.getD_some]
  exact ⟨text, given, nonempty, same, same ▸ admitted⟩

theorem Suits.fills {arguments : Attributes} {segments : List Segment}
    (suits : Suits arguments segments) : Fills (Segment.encoded arguments) segments := by
  intro slot member
  obtain ⟨text, -, nonempty, same, -⟩ := suits.encoded member
  rw [same]
  exact ⟨Text.Percent.encode_ne_empty nonempty, Text.Percent.encode_inner text⟩

/-- Routing a path that has been built for arguments recovers them, each as it has been encoded: the
outcome has them in the fields of their placeholders, and has no other field than a code. -/
theorem routePath_buildPath (id : String) {segments : List Segment} (present : segments ≠ []) :
    ∃ router, Router.compile (document id segments) {} .builtin = .ok router ∧
      ∀ arguments : Attributes, Suits arguments segments →
        ∃ path, router.buildPath id arguments = .ok path ∧
          (∀ slot ∈ slots segments, (router.routePath path).outcome.fields.get? slot.name
            = (arguments.get? slot.name).map Text.Percent.encode) ∧
          ∀ name, (∀ slot ∈ slots segments, slot.name ≠ name) →
            (router.routePath path).outcome.fields.get? name
              = if name = "code" then some "200" else none := by
  obtain ⟨router, compiled, defaults, turned, passage⟩ := compile_document id present
  refine ⟨router, compiled, fun arguments suits => ?_⟩
  let value := encoded arguments
  have built : router.buildPath id arguments
      = .ok (Text.slashed (segments.map (filled value))) := by
    rw [Router.buildPath, turned]
    apply build_reverse id present suits.fills
    intro slot member
    obtain ⟨text, given, nonempty, same, -⟩ := suits.encoded member
    exact ⟨text, given, nonempty, same⟩
  have outcome := routePath_filled defaults passage present suits.fills fun slot member => by
    obtain ⟨text, -, -, -, admitted⟩ := suits.encoded member
    exact admitted
  refine ⟨_, built, ?_, ?_⟩
  · intro slot member
    obtain ⟨text, given, -, same, -⟩ := suits.encoded member
    rw [outcome, returned_get?, if_pos ⟨slot, member, rfl⟩, given, Option.map_some]
    exact congrArg some same
  · intro name other
    rw [outcome, returned_get?, if_neg]
    rintro ⟨slot, member, same⟩
    exact other slot member same

/-- Segments of plain text, of a number before a full stop, and of any text behind a bracket. -/
def recording : List Segment :=
  [.literal { char := 'c' } [{ char := 'd' }],
    .slotted [] { name := "disc", keyword := some "int" } [{ char := '.' }],
    .slotted [{ char := '[', escaped := true }] { name := "title" } []]

theorem routePath_buildPath_recording :
    route recording = "cd/\x7bdisc:int\x7d./\\[\x7btitle\x7d" ∧
      ∃ router, Router.compile (document "recording" recording) {} .builtin = .ok router ∧
        ∃ path, router.buildPath "recording" (.ofList [("disc", "2"), ("title", "A/B?")]) = .ok path ∧
          (router.routePath path).outcome.fields.get? "disc" = some "2" ∧
          (router.routePath path).outcome.fields.get? "title" = some "A%2FB%3F" := by
  have suits : Suits (.ofList [("disc", "2"), ("title", "A/B?")]) recording := by
    intro slot member
    simp only [slots, recording, List.filterMap_cons, slot?, List.filterMap_nil, List.mem_cons,
      List.not_mem_nil, or_false] at member
    rcases member with rfl | rfl
    · exact ⟨"2", by decide, by decide, List.all_eq_true.mp (by decide)⟩
    · exact ⟨"A/B?", by decide, by decide, List.all_eq_true.mp (by decide)⟩
  obtain ⟨router, compiled, there⟩ :=
    @routePath_buildPath "recording" recording (by simp [recording])
  obtain ⟨path, built, fields, -⟩ := there _ suits
  refine ⟨by decide, router, compiled, path, built, ?_, ?_⟩
  · exact fields { name := "disc", keyword := some "int" } (by simp [slots, recording, slot?])
  · exact fields { name := "title" } (by simp [slots, recording, slot?])

end Segment

end Signpost
