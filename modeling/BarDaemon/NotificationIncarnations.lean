import BarDaemon.NotificationLifecycle

/-!
# Signals and routes over runs

Every section keeps identifiers registered and adds only events that its
request permits.  Over a run this accounts for each close signal, each signal
about an action and each internal route.
-/

namespace BarDaemon.Notifications

open Std OrderedMaps TransitionRuns Relation

theorem EngineData.carried_snooze {data : EngineData} {id : Nat}
    {item : ActiveNotification} (stored : ActiveNotification)
    (found : data.active[id]? = some item) (sameId : stored.id = item.id) :
    Carried data { data with active := data.active.insert id stored } := by
  refine ⟨?_, ?_, rfl⟩
  · intro key
    rw [insert_getElem?]
    by_cases same : key = id
    · rw [if_pos same, same, found]
      exact congrArg some sameId
    · rw [if_neg same]
  · have present : data.active.contains id = true := by
      rw [contains_eq_isSome, found]
      rfl
    rw [ExtTreeMap.size_insert, if_pos present]

/-- One section keeps identifiers registered. -/
theorem registered_section {world : Surroundings} {request : Request}
    {before after : Engine} (performed : Section world request before after)
    (registered : Registered before) : Registered after := by
  have quietly : ∀ {after : Engine}, before.data.Carried after.data →
      after.trace = before.trace → Registered after := by
    intro after carried sameTrace
    have kept : after.trace = before.trace ++ [] := by
      rw [sameTrace, List.append_nil]
    exact registered.of_carried carried kept (by simp)
  cases performed with
  | outside sameData sameTrace forward =>
      exact quietly (sameData ▸ .refl _) sameTrace
  | manage _ revisions tickets settings nextPruneMs retentionError =>
      exact quietly (.of_same rfl rfl) rfl
  | arrive incoming outside writes agrees hasRead =>
      exact registered.arrive world incoming outside _ writes agrees
  | install incoming absent room sameId hasRead hushed =>
      exact registered.install _ absent room sameId
  | retire id reason isActive => exact registered.retire reason isActive
  | forget id absent => exact registered.forget absent
  | clear => exact registered.clear
  | observe observation hasRead =>
      exact quietly (EngineData.carried_observeSharing ..) rfl
  | snoozeSharing snoozed => exact quietly (.of_same rfl rfl) rfl
  | policy key policy hasRead =>
      exact quietly (EngineData.carried_applyAppPolicy ..) rfl
  | reading _ monitor reading now =>
      exact quietly (EngineData.carried_setReading ..) rfl
  | dnd _ enabled limit consistent => exact quietly (.of_same rfl rfl) rfl
  | @snooze _ _ limit now item found =>
      have carried := EngineData.carried_snooze
        (EngineData.snoozeItem item limit now) found rfl
      exact registered.of_carried ⟨carried.sameIds, carried.sameSize,
        carried.sameTargets⟩ rfl (by simp [Event.isQuiet])
  | reply text found offered =>
      exact registered.of_carried (.refl _) rfl (by simp [Event.isQuiet])
  | activate token found offered =>
      exact registered.of_carried (.refl _) rfl (by simp [Event.isQuiet])
  | invoke token found offered =>
      exact registered.of_carried (.refl _) rfl (by simp [Event.isQuiet])
  | expire hasRead => exact quietly (EngineData.carried_expire ..) rfl
  | publish =>
      have carried := EngineData.carried_route before.data
        (before.moment world 0).workspaces
      exact registered.of_carried ⟨carried.sameIds, carried.sameSize,
        carried.sameTargets⟩ rfl (by simp [Event.isQuiet])

/-! ## What a request may add to the trace -/

/-- Events that a request may cause.  A notification has left before it is
reported closed; an action is reported while the notification offers it; a
route comes with the update outcome that names it. -/
def Event.PermittedBy (request : Request) : Event → Prop
  | .allocated _ (some runId) =>
      ∃ key incoming, request = .notifyUpdateOnce key runId incoming
  | .signal (.closed id _) active => active.contains id = false
  | .signal (.actionInvoked id actionKey) active =>
      ∃ token item, request = .invokeAction id actionKey token ∧
        active[id]? = some item ∧ Engine.offers item actionKey = true
  | .signal (.activationToken id token) active =>
      ∃ actionKey item, request = .invokeAction id actionKey (some token) ∧
        active[id]? = some item ∧ Engine.offers item actionKey = true
  | .signal (.replied id text) active =>
      ∃ item, request = .reply id text ∧ active[id]? = some item ∧
        Engine.offers item "inline-reply" = true
  | _ => True

/-- The trace grew by events that the request permits. -/
def Grown (request : Request) (before after : Engine) : Prop :=
  ∃ news, after.trace = before.trace ++ news ∧
    ∀ event ∈ news, event.PermittedBy request

theorem Grown.refl (request : Request) (engine : Engine) :
    Grown request engine engine :=
  ⟨[], by simp, by simp⟩

theorem Grown.trans {request : Request} {first second third : Engine}
    (earlier : Grown request first second)
    (later : Grown request second third) : Grown request first third := by
  obtain ⟨news, grown, permitted⟩ := earlier
  obtain ⟨others, grownFurther, permittedFurther⟩ := later
  refine ⟨news ++ others, by rw [grownFurther, grown, List.append_assoc], ?_⟩
  intro event member
  rcases List.mem_append.mp member with early | late
  · exact permitted event early
  · exact permittedFurther event late

theorem Grown.single {request : Request} {before after : Engine}
    {event : Event} (grown : after.trace = before.trace ++ [event])
    (permitted : event.PermittedBy request) : Grown request before after :=
  ⟨[event], grown, by simpa using permitted⟩

/-- One section adds only events that its request permits. -/
theorem grown_section {world : Surroundings} {request : Request}
    {before after : Engine} (performed : Section world request before after)
    (registered : Registered before) : Grown request before after := by
  have silently : ∀ {after : Engine}, after.trace = before.trace →
      Grown request before after :=
    fun sameTrace => ⟨[], by rw [sameTrace, List.append_nil], by simp⟩
  cases performed with
  | outside sameData sameTrace forward => exact silently sameTrace
  | manage _ revisions tickets settings nextPruneMs retentionError =>
      exact silently rfl
  | @arrive _ _ id now replaces incoming outside writes agrees hasRead =>
      have upserted := EngineData.upsert_upserted registered.wellKeyed
        world.lookups outside.icons id incoming
        (outside.workspaces.focusedMonitor.getD "") now
      obtain ⟨-, -, grown⟩ := Registered.insertIncoming_eq world before
        replaces id incoming outside now writes
      refine ⟨_, grown, ?_⟩
      intro event member
      rcases List.mem_cons.mp member with rfl | closed
      · cases replaces <;> exact trivial
      · obtain ⟨oldest, evicts, rfl⟩ := List.mem_map.mp closed
        have evicts := Option.mem_toList.mp evicts
        have different := (upserted.evicted oldest evicts).1
        simp only [Event.PermittedBy]
        rw [contains_eq_isSome, upserted.active, if_neg different,
          if_pos evicts]
        rfl
  | install incoming absent room sameId hasRead hushed =>
      exact Grown.single rfl ⟨_, incoming, rfl⟩
  | retire id reason isActive =>
      refine Grown.single rfl ?_
      simp [Event.PermittedBy]
  | forget id absent => exact silently rfl
  | clear =>
      refine ⟨_, (Registered.clearActive_eq before).2.2, ?_⟩
      intro event member
      obtain ⟨id, -, rfl⟩ := List.mem_map.mp member
      simp [Event.PermittedBy]
  | observe observation hasRead => exact silently rfl
  | snoozeSharing snoozed => exact silently rfl
  | policy key policy hasRead => exact silently rfl
  | reading _ monitor reading now => exact silently rfl
  | dnd _ enabled limit consistent => exact silently rfl
  | snooze found => exact Grown.single rfl trivial
  | reply text found offered =>
      exact Grown.single rfl ⟨_, rfl, found, offered⟩
  | activate token found offered =>
      exact Grown.single rfl ⟨_, _, rfl, found, offered⟩
  | invoke token found offered =>
      exact Grown.single rfl ⟨_, _, rfl, found, offered⟩
  | expire hasRead => exact silently rfl
  | publish => exact Grown.single rfl trivial

/-- One request keeps identifiers registered and adds only events that it
permits. -/
theorem registered_step (world : Surroundings) {engine : Engine}
    (registered : Registered engine) (request : Request) :
    Registered (engine.step world request) ∧
      Grown request engine (engine.step world request) := by
  have sections : Sections world request engine
      (engine.step world request) :=
    Engine.sections_step registered.wellKeyed request
  have kept : ∀ {before after : Engine},
      Section world request before after →
      Registered before ∧ Grown request engine before →
      Registered after ∧ Grown request engine after := by
    rintro before after performed ⟨registered, grown⟩
    exact ⟨registered_section performed registered,
      grown.trans (grown_section performed registered)⟩
  exact Sections.preserve kept sections ⟨registered, .refl request engine⟩

/-! ## Runs -/

theorem registered_starts {world : Surroundings} {engine : Engine}
    (starts : Starts world engine) : Registered engine := by
  obtain ⟨blank, isBlank, rfl⟩ := starts.blank
  have published : Section world .workspacesChanged blank
    (blank.publishSummary world) := .publish blank
  refine registered_section published ?_
  refine ⟨⟨?_, ?_⟩, ?_, ?_, ?_⟩
  · intro id item found
    simp [isBlank.active] at found
  · simp [isBlank.active]
  · intro id
    exact ⟨0, by simp [isBlank.active, isBlank.trace, phases]⟩
  · intro id _
    simp [isBlank.updateTargets]
  · intro id stays
    simp [isBlank.active] at stays

theorem registered_run {world : Surroundings} {start : Engine}
    (starts : Starts world start) (requests : List Request) :
    Registered (run (Engine.step world) start requests) := by
  have preserved : ∀ engine request, Registered engine → True →
      Registered (Engine.step world engine request) :=
    fun _ request registered _ => (registered_step world registered request).1
  exact invariant_run preserved (registered_starts starts)
    (stepsMeet_of_forall (fun _ _ => trivial) start requests)

/-- The content that an identifier has at the end of the run came, with its
route, from one update outcome of the run. -/
def RouteOrigin (world : Surroundings) (start : Engine)
    (requests : List Request) (id : Nat) (runId : String) : Prop :=
  ∃ earlier key incoming later,
    requests = earlier ++ .notifyUpdateOnce key runId incoming :: later ∧
    let called := run (Engine.step world) start earlier
    let answered := called.step world (.notifyUpdateOnce key runId incoming)
    ∃ logged news,
      answered.trace = called.trace ++ logged ∧
      .allocated id (some runId) ∈ logged ∧
      (run (Engine.step world) answered later).trace =
        answered.trace ++ news ∧
      news.filterMap (Event.arrival id) = []

theorem Event.arrival_eq_route {id : Nat} {runId : String} {event : Event}
    (arrives : event.arrival id = some (some runId)) :
    event = .allocated id (some runId) := by
  cases event with
  | allocated other route =>
      by_cases same : other = id
      · simp only [arrival, same, if_true, Option.some.injEq] at arrives
        rw [same, arrives]
      · simp [arrival, same] at arrives
  | replaced other =>
      by_cases same : other = id <;> simp [arrival, same] at arrives
  | snoozed other => cases arrives
  | signal signal active => cases arrives
  | published state active => cases arrives

theorem routeOrigin_of_latest {world : Surroundings} {start : Engine}
    (starts : Starts world start) {id : Nat} {runId : String}
    {requests : List Request}
    (latest : latestRoute id
      (run (Engine.step world) start requests).trace = some (some runId)) :
    RouteOrigin world start requests id runId := by
  induction requests using List.reverseRecOn with
  | nil =>
      obtain ⟨blank, isBlank, rfl⟩ := starts.blank
      simp [latestRoute, Engine.publishSummary, isBlank.trace, Event.arrival]
        at latest
  | append_singleton requests request ih =>
      rw [run_append] at latest
      obtain ⟨news, grown, permitted⟩ :=
        (registered_step world (registered_run starts requests) request).2
      rw [run_cons, run_nil, grown] at latest
      by_cases silent : news.filterMap (Event.arrival id) = []
      · rw [latestRoute_append_none _ silent] at latest
        obtain ⟨earlier, key, incoming, later, rfl, logged, others, answered,
          installed, grownLater, silentLater⟩ := ih latest
        refine ⟨earlier, key, incoming, later ++ [request], by simp, logged,
          others ++ news, answered, installed, ?_, by
            rw [List.filterMap_append, silentLater, silent]; rfl⟩
        rw [run_append, run_cons, run_nil, ← List.append_assoc, ← grownLater]
        rw [run_append, run_cons] at grown
        exact grown
      · have last : (news.filterMap (Event.arrival id)).getLast? =
            some (some runId) := by
          rw [latestRoute, List.filterMap_append,
            List.getLast?_append_of_ne_nil _ silent] at latest
          exact latest
        obtain ⟨event, member, arrives⟩ :=
          List.mem_filterMap.mp (List.mem_of_getLast? last)
        have allocates := Event.arrival_eq_route arrives
        subst allocates
        obtain ⟨key, incoming, rfl⟩ := permitted _ member
        exact ⟨requests, key, incoming, [], rfl, news, [], grown, member,
          by simp, rfl⟩

/-- Routes, keys and the size of the active map, after any requests. -/
theorem Engine.routes_registered {world : Surroundings} {start : Engine}
    (starts : Starts world start) (requests : List Request) :
    let data := (run (Engine.step world) start requests).data
    (∀ (id : Nat) (runId : String), data.updateTargets[id]? = some runId →
      data.active.contains id = true ∧
        RouteOrigin world start requests id runId) ∧
      data.active.size ≤ Engine.policy.maximumActive ∧
      ∀ (id : Nat) (item : ActiveNotification),
        data.active[id]? = some item → item.id = id := by
  have registered := registered_run starts requests
  refine ⟨?_, registered.wellKeyed.bounded,
    fun id item found => registered.wellKeyed.keyed found⟩
  intro id runId targeted
  have isActive : (run (Engine.step world) start
      requests).data.active.contains id = true := by
    cases absent : (run (Engine.step world) start
        requests).data.active.contains id with
    | true => rfl
    | false =>
        rw [registered.routed absent] at targeted
        cases targeted
  refine ⟨isActive, routeOrigin_of_latest starts ?_⟩
  rw [registered.latest isActive, targeted]

theorem phases_publishSummary (world : Surroundings) (engine : Engine)
    (id : Nat) :
    phases id (engine.publishSummary world).trace =
      phases id engine.trace := by
  simp [Engine.publishSummary, phases, Event.phase]

theorem Engine.routes_registered_update_outcome :
    let world := Surroundings.calm fun _ => ⟨1000000, by decide⟩
    let requests := [.notifyUpdateOnce "update" "run" .chat, .notify 0 .chat]
    ∃ start, Starts world start ∧
      (run (Engine.step world) start requests).data.updateTargets[1]? =
        some "run" ∧
      RouteOrigin world start requests 1 "run" := by
  intro world requests
  obtain ⟨start, starts, targeted⟩ := exists_starts world .empty
    (fun start => (run (Engine.step world) start
      requests).data.updateTargets[1]? == some "run") (by decide +kernel)
  have targeted := eq_of_beq targeted
  exact ⟨start, starts, targeted,
    ((Engine.routes_registered starts requests).1 1 "run" targeted).2⟩

/-- A replacement goes on with the incarnation that it replaces. -/
theorem phases_notify_replacement (world : Surroundings) {engine : Engine}
    (registered : Registered engine) {id : Nat} (nonzero : id ≠ 0)
    (isActive : engine.data.active.contains id = true)
    (incoming : IncomingNotification) :
    phases id (engine.step world (.notify id incoming)).trace =
      phases id engine.trace := by
  have inserted : ∀ (outside : Moment) (now : Nat) (writes : PendingWrites),
      phases id (((engine.tick 1).tick 2).insertIncoming world true id incoming
        outside now writes).1.trace = phases id engine.trace := by
    intro outside now writes
    obtain ⟨-, -, grown⟩ := Registered.insertIncoming_eq world
      ((engine.tick 1).tick 2) true id incoming outside now writes
    have upserted := EngineData.upsert_upserted registered.wellKeyed
      world.lookups outside.icons id incoming
      (outside.workspaces.focusedMonitor.getD "") now
    have kept := fun evicts => (upserted.evicted id evicts).1 rfl
    simp only [Engine.tick_data, Engine.tick_trace] at grown
    rw [grown, phases_append, Registered.phases_arrivalEvents,
      if_neg (by simp), if_neg kept]
    exact List.append_nil _
  have replaces : (id != 0 &&
      ((engine.tick 1).tick 2).data.active.contains id) = true := by
    simpa using ⟨nonzero, isActive⟩
  change phases id (engine.notify world id incoming).2.trace = _
  unfold Engine.notify
  split
  · rfl
  · simp only [replaces, if_true]
    split
    · rfl
    · rfl
    · rw [Engine.enqueue_trace, phases_publishSummary]
      exact inserted _ _ _

/-- Incarnations and signals, after any requests and at the next one. -/
theorem Engine.incarnations_signalled {world : Surroundings} {start : Engine}
    (starts : Starts world start) (requests : List Request)
    (request : Request) :
    let before := run (Engine.step world) start requests
    let after := before.step world request
    ∃ news, after.trace = before.trace ++ news ∧
      (∀ event ∈ news, event.PermittedBy request) ∧
      ∀ id : Nat,
        Alternating (phases id before.trace)
          (before.data.active.contains id) ∧
        Alternating (phases id before.trace ++ phases id news)
          (after.data.active.contains id) ∧
        (id ≠ 0 → before.data.active.contains id = true →
          (∃ incoming, request = .notify id incoming) →
            phases id news = []) := by
  have registered := registered_run starts requests
  obtain ⟨later, news, grown, permitted⟩ :=
    registered_step world registered request
  refine ⟨news, grown, permitted, ?_⟩
  intro id
  have alternating := later.alternating id
  rw [grown, phases_append] at alternating
  refine ⟨registered.alternating id, alternating, ?_⟩
  rintro nonzero isActive ⟨incoming, rfl⟩
  have same := phases_notify_replacement world registered nonzero isActive
    incoming
  rw [grown, phases_append] at same
  exact List.append_right_eq_self.mp same

theorem Engine.incarnations_signalled_action :
    let world := Surroundings.calm fun _ => ⟨1000000, by decide⟩
    let request := Request.invokeAction 1 "default" none
    ∃ start, Starts world start ∧
      let before := run (Engine.step world) start [.notify 0 .chat]
      phases 1 before.trace = [.began] ∧
      ∃ news, (before.step world request).trace = before.trace ++ news ∧
        (∀ event ∈ news, event.PermittedBy request) ∧
        phases 1 news = [.ended] := by
  intro world request
  obtain ⟨start, starts, passes⟩ := exists_starts world .empty
    (fun start =>
      let before := run (Engine.step world) start [.notify 0 .chat]
      phases 1 before.trace == [.began] &&
        phases 1 (before.step world request).trace == [.began, .ended])
    (by decide +kernel)
  simp only [Bool.and_eq_true, beq_iff_eq] at passes
  obtain ⟨news, grown, permitted, -⟩ :=
    Engine.incarnations_signalled starts [.notify 0 .chat] request
  refine ⟨start, starts, passes.1, news, grown, permitted, ?_⟩
  have ended := passes.2
  rw [grown, phases_append, passes.1] at ended
  exact (List.cons.inj ended).2

end BarDaemon.Notifications
