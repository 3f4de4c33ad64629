import Mathlib.Data.List.Induction
import Signpost.Proofs.Success
import Signpost.Service

/-!
# The life of a service

Operations reach a service one after another. What it answers depends on what has happened before in
one way only: by the last load that has succeeded, whose document was compiled with the functions that
had been registered by then. That load is found by looking back over the operations, which is how the
answers are described here, without a service. A router that has been handed out is the one of a load
as well, of the same load for ever.
-/
namespace Signpost

/-- What can be asked of a router. -/
inductive Question
  | route (attributes : Attributes)
  | routePath (path : String)
  | buildPath (id : String) (arguments : Attributes)

inductive Reply
  | done
  | router (router : Router)
  | execution (execution : Execution)
  | path (path : String)

inductive Operation
  | register (function : RouteFunction)
  | load (spec : SpecNode)
  | loadJson (source : String)
  | ask (question : Question)
  | snapshot

def Router.answer (router : Router) : Question → Except RouterError Reply
  | .route attributes => .ok (.execution (router.route attributes))
  | .routePath path => .ok (.execution (router.routePath path))
  | .buildPath id arguments =>
    ((router.buildPath id arguments).mapError RouterError.reverse).map .path

def Service.answer (service : Service) : Question → Except RouterError Reply
  | .route attributes => (service.route attributes).map .execution
  | .routePath path => (service.routePath path).map .execution
  | .buildPath id arguments => (service.buildPath id arguments).map .path

/-- A service and the routers that it has handed out, in their order. -/
structure Session where
  service : Service
  snapshots : List Router := []

namespace Session

def fresh (options : Options) : Session := { service := { options } }

/-- Goes on with what a load has returned. -/
def publish (session : Session) :
    Except RouterError (Service × Router) → Except RouterError Reply × Session
  | .ok (service, router) => (.ok (.router router), ⟨service, session.snapshots ++ [router]⟩)
  | .error error => (.error error, session)

/-- The answer to an operation, and the session behind it. -/
def perform (session : Session) : Operation → Except RouterError Reply × Session
  | .register function =>
    (.ok .done, { session with service := session.service.register function })
  | .load spec => session.publish (session.service.load spec)
  | .loadJson source => session.publish (session.service.loadJson source)
  | .ask question => (session.service.answer question, session)
  | .snapshot =>
    match session.service.current with
    | .ok router => (.ok (.router router), { session with snapshots := session.snapshots ++ [router] })
    | .error error => (.error error, session)

def run (session : Session) (operations : List Operation) : Session :=
  operations.foldl (fun session operation => (session.perform operation).2) session

end Session

/-! ### Looking back -/

/-- What the elements of a history yield, each behind those in front of it. -/
def throughout {α β : Type} (yields : List α → α → Option β) (history : List α) : List β :=
  (List.range history.length).filterMap fun index =>
    history[index]?.bind (yields (history.take index))

theorem throughout_concat {α β : Type} (yields : List α → α → Option β) (past : List α) (last : α) :
    throughout yields (past ++ [last]) = throughout yields past ++ (yields past last).toList := by
  have behind : (past ++ [last])[past.length]?.bind (yields ((past ++ [last]).take past.length))
      = yields past last := by
    -- the last element stands behind the whole past
    rw [List.getElem?_concat_length, List.take_left]
    rfl
  have earlier : (List.range past.length).filterMap (fun index =>
      (past ++ [last])[index]?.bind (yields ((past ++ [last]).take index)))
        = throughout yields past := by
    refine List.filterMap_congr fun index member => ?_
    have inside := List.mem_range.mp member
    rw [List.getElem?_append_left inside, List.take_append_of_le_length (Nat.le_of_lt inside)]
  rw [throughout, List.length_append, List.length_singleton, List.range_succ, List.filterMap_append,
    earlier, List.filterMap_cons, behind]
  cases yields past last <;> rfl

namespace Operation

/-- The document that an operation loads, if it can be read. -/
def document? : Operation → Option SpecNode
  | .load spec => some spec
  | .loadJson source => SpecNode.read? source
  | _ => none

def extend (functions : FunctionRegistry) : Operation → FunctionRegistry
  | .register function => functions.register function
  | _ => functions

/-- The built-in functions with the registrations among operations, in their order. -/
def registered (operations : List Operation) : FunctionRegistry := operations.foldl extend .builtin

variable (options : Options)

/-- The router that an operation loads behind others, if it is a load that succeeds. -/
def loads? (past : List Operation) (operation : Operation) : Option Router :=
  operation.document?.bind fun spec => (Router.compile spec options (registered past)).toOption

/-- The router of the last load that has succeeded. -/
def lastLoad? (operations : List Operation) : Option Router :=
  (throughout (loads? options) operations).getLast?

/-- The router that an operation hands out behind others: the one that it loads, or as a snapshot the
one of the last load. -/
def hands? (past : List Operation) : Operation → Option Router
  | .snapshot => lastLoad? options past
  | operation => loads? options past operation

/-- The answer to an operation behind others. -/
def expected (past : List Operation) : Operation → Except RouterError Reply
  | .register _ => .ok .done
  | .load spec => (Router.compile spec options (registered past)).map .router
  | .loadJson source =>
    match SpecNode.read? source with
    | some spec => (Router.compile spec options (registered past)).map .router
    | none => .error .spec
  | .ask question =>
    match lastLoad? options past with
    | some router => router.answer question
    | none => .error .notLoaded
  | .snapshot =>
    match lastLoad? options past with
    | some router => .ok (.router router)
    | none => .error .notLoaded

theorem registered_concat (past : List Operation) (operation : Operation) :
    registered (past ++ [operation]) = operation.extend (registered past) := by
  rw [registered, List.foldl_append]
  rfl

theorem lastLoad?_concat (past : List Operation) (operation : Operation) :
    lastLoad? options (past ++ [operation])
      = (loads? options past operation).or (lastLoad? options past) := by
  rw [lastLoad?, throughout_concat, List.getLast?_append]
  cases loads? options past operation <;> rfl

theorem loads?_eq_some_iff {past : List Operation} {operation : Operation} {router : Router} :
    loads? options past operation = some router ↔
      ∃ spec, operation.document? = some spec ∧
        Router.compile spec options (registered past) = .ok router := by
  rw [loads?, Option.bind_eq_some_iff]
  refine exists_congr fun spec => and_congr_right fun _ => ?_
  cases Router.compile spec options (registered past) <;> simp [Except.toOption]

theorem lastLoad?_eq_none_iff {operations : List Operation} :
    lastLoad? options operations = none ↔
      ∀ before operation, before ++ [operation] <+: operations →
        loads? options before operation = none := by
  induction operations using List.reverseRecOn with
  | nil => simp [lastLoad?, throughout]
  | append_singleton past last ih =>
    rw [lastLoad?_concat, Option.or_eq_none_iff, ih]
    constructor
    · rintro ⟨unloaded, earlier⟩ before operation cut
      obtain same | inside := List.prefix_concat_iff.mp cut
      · obtain ⟨rfl, ends⟩ := List.append_inj' same rfl
        obtain rfl := List.singleton_inj.mp ends
        exact unloaded
      · exact earlier before operation inside
    · intro all
      exact ⟨all past last List.prefix_rfl, fun before operation cut =>
        all before operation (cut.trans (List.prefix_append _ _))⟩

/-- The last load that has succeeded is one with no other behind it. -/
theorem lastLoad?_eq_some_iff {operations : List Operation} {router : Router} :
    lastLoad? options operations = some router ↔
      ∃ before operation after, operations = before ++ operation :: after ∧
        loads? options before operation = some router ∧
        ∀ middle later, middle ++ [later] <+: after →
          loads? options (before ++ operation :: middle) later = none := by
  induction operations using List.reverseRecOn with
  | nil => simp [lastLoad?, throughout]
  | append_singleton past last ih =>
    rw [lastLoad?_concat]
    constructor
    · intro found
      -- either the newest operation is the load, or it has not loaded and there is an earlier one
      cases loaded : loads? options past last with
      | some newest =>
        rw [loaded] at found
        exact ⟨past, last, [], rfl, loaded.trans found, fun middle later cut =>
          absurd (List.prefix_nil.mp cut) (List.append_ne_nil_of_right_ne_nil _ (List.cons_ne_nil _ _))⟩
      | none =>
        rw [loaded, Option.none_or, ih] at found
        obtain ⟨before, operation, after, rfl, succeeded, since⟩ := found
        refine ⟨before, operation, after ++ [last], by simp, succeeded, fun middle later cut => ?_⟩
        obtain same | inside := List.prefix_concat_iff.mp cut
        · obtain ⟨rfl, ends⟩ := List.append_inj' same rfl
          obtain rfl := List.singleton_inj.mp ends
          exact loaded
        · exact since middle later inside
    · rintro ⟨before, operation, after, split, succeeded, since⟩
      -- the newest operation is the load, or else one of those behind it, which have loaded nothing
      obtain rfl | ⟨kept, ending, rfl⟩ := List.eq_nil_or_concat' after
      · obtain ⟨rfl, ends⟩ := List.append_inj' split rfl
        obtain rfl := List.singleton_inj.mp ends
        rw [succeeded, Option.some_or]
      · rw [← List.cons_append, ← List.append_assoc] at split
        obtain ⟨rfl, ends⟩ := List.append_inj' split rfl
        obtain rfl := List.singleton_inj.mp ends
        rw [since kept last List.prefix_rfl, Option.none_or, ih]
        exact ⟨before, operation, kept, rfl, succeeded, fun middle later cut =>
          since middle later (cut.trans (List.prefix_append _ _))⟩

end Operation

/-! ### Sessions -/

namespace Session

open Operation

/-- A session stands where its operations have brought it. -/
structure Follows (options : Options) (operations : List Operation) (session : Session) : Prop where
  configured : session.service.options = options
  functions : session.service.functions = registered operations
  published : session.service.published = lastLoad? options operations
  snapshots : session.snapshots = throughout (hands? options) operations

theorem fresh_follows (options : Options) : (fresh options).Follows options [] :=
  ⟨rfl, rfl, rfl, rfl⟩

variable {options : Options} {past : List Operation} {session : Session}

theorem Follows.current (follows : session.Follows options past) :
    session.service.current = (lastLoad? options past).elim (.error .notLoaded) .ok := by
  rw [Service.current, follows.published]
  cases lastLoad? options past <;> rfl

/-- What is asked of a service is asked of its router. -/
theorem answer_current (service : Service) (question : Question) :
    service.answer question
      = match service.current with
        | .ok router => router.answer question
        | .error error => .error error := by
  cases question with
  | route attributes =>
    rw [Service.answer, Service.route]
    cases service.current <;> rfl
  | routePath path =>
    rw [Service.answer, Service.routePath]
    cases service.current <;> rfl
  | buildPath id arguments =>
    rw [Service.answer, Service.buildPath]
    cases service.current <;> rfl

/-- An operation that loads and registers nothing hands out what it does, and changes nothing else. -/
theorem Follows.hand (follows : session.Follows options past) {operation : Operation}
    (unloaded : loads? options past operation = none)
    (unregistered : operation.extend (registered past) = registered past) :
    Follows options (past ++ [operation])
      { session with snapshots := session.snapshots ++ (hands? options past operation).toList } where
  configured := follows.configured
  functions := by rw [registered_concat, unregistered, follows.functions]
  published := by rw [lastLoad?_concat, unloaded, Option.none_or, follows.published]
  snapshots := by rw [throughout_concat, follows.snapshots]

theorem Follows.stay (follows : session.Follows options past) {operation : Operation}
    (unloaded : loads? options past operation = none)
    (unregistered : operation.extend (registered past) = registered past)
    (kept : hands? options past operation = none) : session.Follows options (past ++ [operation]) := by
  have same := follows.hand unloaded unregistered
  rwa [kept, Option.toList_none, List.append_nil] at same

/-- A load publishes what its document is compiled to, or changes nothing. -/
theorem Follows.publish (follows : session.Follows options past) {operation : Operation}
    {spec : SpecNode} (document : operation.document? = some spec)
    (unregistered : operation.extend (registered past) = registered past)
    (hands : hands? options past operation = loads? options past operation) :
    (session.publish (session.service.load spec)).1
        = (Router.compile spec options (registered past)).map .router ∧
      (session.publish (session.service.load spec)).2.Follows options (past ++ [operation]) := by
  have loads : loads? options past operation
      = (Router.compile spec options (registered past)).toOption := by
    rw [loads?, document]
    rfl
  rw [Service.load, follows.configured, follows.functions]
  cases compiled : Router.compile spec options (registered past) with
  | error error =>
    rw [compiled] at loads
    exact ⟨rfl, follows.stay loads unregistered (hands.trans loads)⟩
  | ok router =>
    rw [compiled] at loads
    refine ⟨rfl, ⟨rfl, ?_, ?_, ?_⟩⟩
    · rw [registered_concat, unregistered]
      rfl
    · rw [lastLoad?_concat, loads]
      rfl
    · rw [throughout_concat, hands, loads, ← follows.snapshots]
      rfl

/-- An operation is answered as looking back tells, and leaves the session where it is expected. -/
theorem Follows.perform (follows : session.Follows options past) (operation : Operation) :
    (session.perform operation).1 = expected options past operation ∧
      (session.perform operation).2.Follows options (past ++ [operation]) := by
  cases operation with
  | register function =>
    refine ⟨rfl, follows.configured, ?_, ?_, ?_⟩
    · rw [registered_concat, ← follows.functions]
      rfl
    · rw [lastLoad?_concat]
      exact follows.published
    · rw [throughout_concat]
      exact follows.snapshots.trans (List.append_nil _).symm
  | load spec => exact follows.publish rfl rfl rfl
  | loadJson source =>
    rw [Session.perform, Service.loadJson, expected]
    cases read : SpecNode.read? source with
    | none =>
      -- a text that cannot be read is refused before anything is compiled
      have unloaded : loads? options past (.loadJson source) = none := by
        rw [loads?, document?, read]
        rfl
      exact ⟨rfl, follows.stay unloaded rfl unloaded⟩
    | some spec => exact follows.publish read rfl rfl
  | ask question =>
    refine ⟨?_, follows.stay rfl rfl rfl⟩
    rw [Session.perform, answer_current, follows.current, expected]
    cases lastLoad? options past <;> rfl
  | snapshot =>
    have handed := @Follows.hand options past session follows .snapshot rfl rfl
    rw [hands?] at handed
    rw [Session.perform, follows.current, expected]
    cases last : lastLoad? options past with
    | none => exact ⟨rfl, follows.stay rfl rfl last⟩
    | some router =>
      rw [last] at handed
      exact ⟨rfl, handed⟩

theorem Follows.run (follows : session.Follows options past) (operations : List Operation) :
    (session.run operations).Follows options (past ++ operations) := by
  -- the run is taken from its front, where every operation is the end of a longer past
  induction operations generalizing past session with
  | nil => rwa [List.append_nil]
  | cons operation rest ih =>
    have later := ih (follows.perform operation).2
    rwa [List.append_assoc] at later

/-- An operation is refused and changes nothing, or it is done and what it hands out is added. -/
theorem perform_cases (session : Session) (operation : Operation) :
    (∃ error, session.perform operation = (.error error, session)) ∨
      ∃ reply service handed,
        session.perform operation = (.ok reply, ⟨service, session.snapshots ++ handed⟩) := by
  have published (result : Except RouterError (Service × Router)) :
      (∃ error, session.publish result = (.error error, session)) ∨
        ∃ reply service handed,
          session.publish result = (.ok reply, ⟨service, session.snapshots ++ handed⟩) := by
    cases result with
    | error error => exact .inl ⟨error, rfl⟩
    | ok loaded => exact .inr ⟨.router loaded.2, loaded.1, [loaded.2], rfl⟩
  -- Loading hands its router out with the answer; the other operations publish nothing new.
  cases operation with
  | register function =>
    refine .inr ⟨.done, session.service.register function, [], ?_⟩
    rw [List.append_nil]
    rfl
  | load spec => exact published _
  | loadJson source => exact published _
  | ask question =>
    rw [Session.perform]
    cases session.service.answer question with
    | error error => exact .inl ⟨error, rfl⟩
    | ok reply =>
      refine .inr ⟨reply, session.service, [], ?_⟩
      rw [List.append_nil]
  | snapshot =>
    rw [Session.perform]
    cases session.service.current with
    | error error => exact .inl ⟨error, rfl⟩
    | ok router => exact .inr ⟨.router router, session.service, [router], rfl⟩

theorem perform_refused {operation : Operation} {error : RouterError}
    (refused : (session.perform operation).1 = .error error) :
    (session.perform operation).2 = session := by
  rcases session.perform_cases operation with ⟨_, failed⟩ | ⟨_, _, _, succeeded⟩
  · rw [failed]
  · rw [succeeded] at refused
    cases refused

/-- What has been handed out stays with its holders. -/
theorem perform_snapshots (operation : Operation) :
    session.snapshots <+: (session.perform operation).2.snapshots := by
  rcases session.perform_cases operation with ⟨_, failed⟩ | ⟨_, _, handed, succeeded⟩
  · exact ⟨[], by rw [failed, List.append_nil]⟩
  · rw [succeeded]
    exact List.prefix_append session.snapshots handed

theorem run_snapshots (session : Session) (operations : List Operation) :
    session.snapshots <+: (session.run operations).snapshots := by
  induction operations generalizing session with
  | nil => exact List.prefix_rfl
  | cons operation rest ih =>
    exact (perform_snapshots operation).trans (ih (session.perform operation).2)

/-- Behind any operations, a service has published the router of the last load that has succeeded,
compiled with the functions that were registered in front of it, and it has none as long as no load
has succeeded. What is asked goes to that router. Each operation is answered as looking back tells. One
that is refused changes nothing, and a registration changes neither what is published nor what has been
handed out, which is, for each of its operations, the router of its own load for ever. -/
theorem run_lifecycle (options : Options) (operations : List Operation) :
    let session := (fresh options).run operations
    (session.service.published = none ↔
      ∀ before operation, before ++ [operation] <+: operations →
        loads? options before operation = none) ∧
    (∀ router, session.service.published = some router ↔
      ∃ before operation after, operations = before ++ operation :: after ∧
        (∃ spec, operation.document? = some spec ∧
          Router.compile spec options (registered before) = .ok router) ∧
        ∀ middle later, middle ++ [later] <+: after →
          loads? options (before ++ operation :: middle) later = none) ∧
    (∀ question, session.service.answer question
      = match session.service.published with
        | some router => router.answer question
        | none => .error .notLoaded) ∧
    (∀ operation, (session.perform operation).1 = expected options operations operation) ∧
    (∀ operation error, (session.perform operation).1 = .error error →
      (session.perform operation).2 = session) ∧
    (∀ function,
      (session.perform (.register function)).2.service.published = session.service.published ∧
      (session.perform (.register function)).2.snapshots = session.snapshots) ∧
    session.snapshots = throughout (hands? options) operations ∧
    ∀ further, session.snapshots <+: (session.run further).snapshots := by
  intro session
  have follows : session.Follows options operations := (fresh_follows options).run operations
  refine ⟨?_, fun router => ?_, fun question => ?_, fun operation => (follows.perform operation).1,
    fun operation error => perform_refused, fun function => ⟨rfl, rfl⟩, follows.snapshots,
    session.run_snapshots⟩
  · rw [follows.published, lastLoad?_eq_none_iff]
  · simp only [follows.published, lastLoad?_eq_some_iff, loads?_eq_some_iff]
  · rw [answer_current, follows.current, follows.published]
    cases lastLoad? options operations <;> rfl

/-- A shelf whose titles are marked when a path is built, loaded before there are marks, with one mark
and with another. -/
def shelfOperations : List Operation :=
  let shelf := SpecNode.router.withChild
    (((SpecNode.path "{title:mark}").withAttribute "id" "shelf").withChild .returning)
  let mark (text : String) := RouteFunction.ofText "mark" (· ++ text)
  [.load shelf, .register (mark "!"), .load shelf, .register (mark "?"), .snapshot,
    .loadJson "[", .load shelf]

theorem run_lifecycle_shelf :
    let session := (fresh {}).run shelfOperations
    (session.perform (.loadJson "[")).1 = .error .spec ∧
    (session.perform (.loadJson "[")).2 = session ∧
    session.snapshots.map (fun router =>
      (router.buildPath "shelf" (.ofList [("title", "Emma")])).toOption)
        = [some "/Emma!", some "/Emma!", some "/Emma?"] ∧
    session.service.published.isSome := by
  intro session
  obtain ⟨-, -, -, answers, refused, -, -, -⟩ := run_lifecycle {} shelfOperations
  have unread : (SpecNode.read? "[").isNone := by decide +kernel
  have error : (session.perform (.loadJson "[")).1 = .error .spec := by
    rw [answers, expected, Option.isNone_iff_eq_none.mp unread]
  exact ⟨error, refused _ _ error, by decide +kernel, by decide +kernel⟩

end Session

end Signpost
