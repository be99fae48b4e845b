import BarDaemon.MediaEnrichment

/-!
# What metadata is bound to

Whatever the coordinator keeps was fetched for a video that some player asked
for, and a session has it only as long as the content of its player stays.
-/

namespace BarDaemon.Media

open Std OrderedMaps

/-! ## What has been seen of a player -/

/-- The player is there, and has no other content. -/
def Mark.Keeps (id : String) (content : Content) : Mark → Prop
  | .read ids => id ∈ ids
  | .observed other seen => other = id → seen = content
  | .asked _ _ _ => True

/-- The player has been in every reading in between, with this content. -/
def Stays (id : String) (content : Content) (before after : List Mark) : Prop :=
  ∃ marks, after = before ++ marks ∧ ∀ mark ∈ marks, mark.Keeps id content

theorem Stays.refl (id : String) (content : Content) (history : List Mark) :
    Stays id content history history :=
  ⟨[], (List.append_nil _).symm, nofun⟩

theorem Stays.trans {id : String} {content : Content}
    {first second third : List Mark} (before : Stays id content first second)
    (after : Stays id content second third) : Stays id content first third := by
  obtain ⟨marks, rfl, kept⟩ := before
  obtain ⟨others, rfl, stay⟩ := after
  exact ⟨marks ++ others, List.append_assoc _ _ _,
    List.forall_mem_append.mpr ⟨kept, stay⟩⟩

theorem Mark.Keeps.stays {id : String} {content : Content} {mark : Mark}
    (keeps : mark.Keeps id content) (history : List Mark) :
    Stays id content history (history ++ [mark]) :=
  ⟨[mark], rfl, List.forall_mem_singleton.mpr keeps⟩

/-- The player has asked for the video with the content, and has stayed with it
ever since. -/
def Asked (history : List Mark) (id : String) (content : Content)
    (video : String) : Prop :=
  ∃ earlier, Stays id content (earlier ++ [.asked id content video]) history

theorem Asked.stays {id : String} {content : Content} {video : String}
    {before after : List Mark} (asked : Asked before id content video)
    (stays : Stays id content before after) : Asked after id content video := by
  obtain ⟨earlier, since⟩ := asked
  exact ⟨earlier, since.trans stays⟩

namespace Enrichment

/-- Metadata fetched for a video that the player with the identity has asked
for with the content, which it has had ever since. -/
def Known (state : Enrichment) (id : String) (content : Content)
    (metadata : Metadata) : Prop :=
  ∃ video, Asked state.history id content video ∧
    (video, metadata) ∈ state.fetched

/-- As long as its session lasts, a ticket is good for what its player has
asked for. -/
def Bound (state : Enrichment) (video : String) (ticket : Ticket) : Prop :=
  ticket.generation ≤ state.generation ∧
    ∀ session : Session, state.sessions[ticket.player]? = some session →
      session.generation = ticket.generation →
        Asked state.history ticket.player (contentKey session.observed) video

/-- What the maps hold. -/
structure Stored (state : Enrichment) : Prop where
  cached : ∀ (video : String) (entry : Cached), state.cache[video]? = some entry →
    ∀ metadata, entry.metadata = some metadata →
      (video, metadata) ∈ state.fetched
  begun : ∀ (id : String) (session : Session), state.sessions[id]? = some session →
    session.generation ≤ state.generation
  held : ∀ (id : String) (session : Session), state.sessions[id]? = some session →
    ∀ metadata, session.metadata = some metadata →
      state.Known id (contentKey session.observed) metadata

/-- What the tasks carry. -/
structure Tied (state : Enrichment) : Prop where
  bound : ∀ task ∈ state.tasks, ∀ ticket ∈ task.tickets,
    state.Bound task.video ticket
  finished : ∀ task ∈ state.tasks, ∀ metadata,
    task.progress = .finished (some metadata) →
      (task.video, metadata) ∈ state.fetched
  idle : state.enabled = false → state.tasks = []

/-! ## Later states -/

/-- Nothing is forgotten, and a session either has a generation of its own or is
kept, while its player stays. -/
structure Evolves (before after : Enrichment) : Prop where
  generation : before.generation ≤ after.generation
  fetched : before.fetched ⊆ after.fetched
  sessions : ∀ (id : String) (session : Session), after.sessions[id]? = some session →
    before.generation < session.generation ∨
      ∃ old : Session, before.sessions[id]? = some old ∧
        session.generation = old.generation ∧
        session.observed = old.observed ∧
        Stays id (contentKey old.observed) before.history after.history

theorem Evolves.refl (state : Enrichment) : Evolves state state :=
  ⟨Nat.le_refl _, fun _ member => member,
    fun _ session found => .inr ⟨session, found, rfl, rfl, .refl _ _ _⟩⟩

theorem Evolves.trans {first second third : Enrichment}
    (before : Evolves first second) (after : Evolves second third) :
    Evolves first third where
  generation := Nat.le_trans before.generation after.generation
  fetched := List.Subset.trans before.fetched after.fetched
  sessions id session found := by
    obtain later | ⟨old, found, generation, observed, stays⟩ :=
      after.sessions id session found
    · exact .inl (Nat.lt_of_le_of_lt before.generation later)
    · obtain later | ⟨oldest, found, same, seen, stayed⟩ :=
        before.sessions id old found
      · exact .inl (generation ▸ later)
      · rw [seen] at stays
        exact .inr ⟨oldest, found, generation.trans same,
          observed.trans seen, stayed.trans stays⟩

theorem Known.stays {before after : Enrichment} {id : String}
    {content : Content} {metadata : Metadata}
    (known : before.Known id content metadata)
    (stays : Stays id content before.history after.history)
    (fetched : before.fetched ⊆ after.fetched) :
    after.Known id content metadata := by
  obtain ⟨video, asked, found⟩ := known
  exact ⟨video, asked.stays stays, fetched found⟩

theorem Bound.evolves {before after : Enrichment}
    (evolves : Evolves before after) {video : String} {ticket : Ticket}
    (bound : before.Bound video ticket) : after.Bound video ticket := by
  refine ⟨Nat.le_trans bound.1 evolves.generation, ?_⟩
  intro session found same
  obtain later | ⟨old, found, generation, observed, stays⟩ :=
    evolves.sessions _ session found
  · exact absurd bound.1 (by omega)
  · rw [observed]
    exact (bound.2 old found (generation.symm.trans same)).stays stays

/-- A task that carries what another one does, and has ended with nothing but
what has been fetched. -/
structure Continues (state : Enrichment) (old task : Task) : Prop where
  video : task.video = old.video
  tickets : task.tickets = old.tickets
  finished : ∀ metadata, task.progress = .finished (some metadata) →
    old.progress = .finished (some metadata) ∨
      (task.video, metadata) ∈ state.fetched

theorem Tied.change {before after : Enrichment} (tied : Tied before)
    (evolves : Evolves before after)
    (tasks : ∀ task ∈ after.tasks, ∃ old ∈ before.tasks,
      after.Continues old task)
    (enabled : after.enabled = before.enabled) : Tied after where
  bound task member ticket held := by
    obtain ⟨old, earlier, continues⟩ := tasks task member
    rw [continues.video]
    exact (tied.bound old earlier ticket (continues.tickets ▸ held)).evolves
      evolves
  finished task member metadata done := by
    obtain ⟨old, earlier, continues⟩ := tasks task member
    obtain same | new := continues.finished metadata done
    · rw [continues.video]
      exact evolves.fetched (tied.finished old earlier metadata same)
    · exact new
  idle disabled := by
    have none := tied.idle (enabled ▸ disabled)
    refine List.eq_nil_iff_forall_not_mem.mpr fun task member => ?_
    obtain ⟨old, earlier, -⟩ := tasks task member
    rw [none] at earlier
    cases earlier

theorem Tied.evolves {before after : Enrichment} (tied : Tied before)
    (evolves : Evolves before after)
    (tasks : ∀ task ∈ after.tasks, task ∈ before.tasks)
    (enabled : after.enabled = before.enabled) : Tied after :=
  tied.change evolves
    (fun task member =>
      ⟨task, tasks task member, rfl, rfl, fun _ done => .inl done⟩) enabled

/-! ## What is shown of a player -/

/-- The player, with metadata in what is blank that it has asked for since it
has its content. -/
def Put (state : Enrichment) (raw shown : MediaPlayer) : Prop :=
  ∃ found, shown = putAll found raw ∧
    ∀ metadata ∈ found, state.Known raw.id (contentKey raw) metadata

theorem Put.stays {before after : Enrichment} {raw shown : MediaPlayer}
    (put : before.Put raw shown)
    (stays : Stays raw.id (contentKey raw) before.history after.history)
    (fetched : before.fetched ⊆ after.fetched) : after.Put raw shown := by
  obtain ⟨found, rfl, known⟩ := put
  exact ⟨found, rfl, fun metadata member =>
    (known metadata member).stays stays fetched⟩

theorem put_self (state : Enrichment) (raw : MediaPlayer) :
    state.Put raw raw :=
  ⟨[], rfl, fun _ member => nomatch member⟩

theorem Put.id {state : Enrichment} {raw shown : MediaPlayer}
    (put : state.Put raw shown) : shown.id = raw.id := by
  obtain ⟨found, rfl, -⟩ := put
  exact (keeps_putAll found raw).id

theorem Put.apply {state : Enrichment} {raw shown : MediaPlayer}
    (put : state.Put raw shown) {metadata : Metadata}
    (known : state.Known raw.id (contentKey raw) metadata) :
    state.Put raw (applyMetadata metadata shown) := by
  obtain ⟨found, rfl, all⟩ := put
  refine ⟨found ++ [metadata], (putAll_append found [metadata] raw).symm, ?_⟩
  intro other member
  obtain old | new := List.mem_append.mp member
  · exact all other old
  · rw [List.mem_singleton.mp new]
    exact known

/-- The session of the player is of the content that the player has. -/
def Observed (state : Enrichment) (raw : MediaPlayer) : Prop :=
  ∃ session : Session, state.sessions[raw.id]? = some session ∧
    contentKey session.observed = contentKey raw

/-! ## Preparing players -/

/-- A change of the sessions of some players, with the tasks left alone. -/
structure Touches (ids : List String) (before after : Enrichment) : Prop where
  evolves : Evolves before after
  stored : Stored after
  enabled : after.enabled = before.enabled
  tasks : after.tasks = before.tasks
  pending : after.pending = before.pending
  requestWindow : after.requestWindow = before.requestWindow
  requestsStarted : after.requestsStarted = before.requestsStarted
  starts : after.starts = before.starts
  others : ∀ id ∉ ids, after.sessions[id]? = before.sessions[id]?
  stays : ∀ id ∉ ids, ∀ content, Stays id content before.history after.history

theorem Touches.refl {state : Enrichment} (stored : Stored state)
    (ids : List String) : Touches ids state state :=
  ⟨.refl state, stored, rfl, rfl, rfl, rfl, rfl, rfl, fun _ _ => rfl,
    fun _ _ _ => .refl _ _ _⟩

theorem Touches.trans {first second third : Enrichment} {ids : List String}
    (before : Touches ids first second) (after : Touches ids second third) :
    Touches ids first third where
  evolves := before.evolves.trans after.evolves
  stored := after.stored
  enabled := after.enabled.trans before.enabled
  tasks := after.tasks.trans before.tasks
  pending := after.pending.trans before.pending
  requestWindow := after.requestWindow.trans before.requestWindow
  requestsStarted := after.requestsStarted.trans before.requestsStarted
  starts := after.starts.trans before.starts
  others id foreign :=
    (after.others id foreign).trans (before.others id foreign)
  stays id foreign content :=
    (before.stays id foreign content).trans (after.stays id foreign content)

theorem Touches.mono {before after : Enrichment} {ids more : List String}
    (touches : Touches ids before after) (within : ids ⊆ more) :
    Touches more before after :=
  { touches with
    others := fun id foreign =>
      touches.others id fun member => foreign (within member)
    stays := fun id foreign =>
      touches.stays id fun member => foreign (within member) }

/-- A mark that the sessions keep to. -/
theorem touches_mark {state : Enrichment} (stored : Stored state) {mark : Mark}
    {ids : List String}
    (keeps : ∀ (id : String) (session : Session),
      state.sessions[id]? = some session →
        mark.Keeps id (contentKey session.observed))
    (foreign : ∀ id ∉ ids, ∀ content, mark.Keeps id content) :
    Touches ids state (state.marked mark) where
  evolves := ⟨Nat.le_refl _, fun _ member => member, fun id session found =>
    .inr ⟨session, found, rfl, rfl, (keeps id session found).stays _⟩⟩
  stored :=
    { stored with
      held := fun id session found metadata shown =>
        (stored.held id session found metadata shown).stays
          ((keeps id session found).stays _) fun _ member => member }
  enabled := rfl
  tasks := rfl
  pending := rfl
  requestWindow := rfl
  requestsStarted := rfl
  starts := rfl
  others _ _ := rfl
  stays id other content := (foreign id other content).stays _

theorem observed_touches {before after : Enrichment} {ids : List String}
    (touches : Touches ids before after) {raw : MediaPlayer}
    (foreign : raw.id ∉ ids) (observed : before.Observed raw) :
    after.Observed raw := by
  obtain ⟨session, found, same⟩ := observed
  exact ⟨session, (touches.others _ foreign).trans found, same⟩

/-- The session that a player has after it has been observed. -/
structure Opened (player : MediaPlayer) (before after : Enrichment)
    (session : Session) : Prop where
  touches : Touches [player.id] before after
  found : after.sessions[player.id]? = some session
  same : contentKey session.observed = contentKey player

theorem opened_fresh {state : Enrichment} (stored : Stored state)
    (player : MediaPlayer) :
    Opened player state
      { state.marked (.observed player.id (contentKey player)) with
        generation := state.generation + 1
        sessions := state.sessions.insert player.id
          ⟨player, state.generation + 1, none⟩ }
      ⟨player, state.generation + 1, none⟩ := by
  have apart : ∀ id, player.id ≠ id → ∀ content,
      Stays id content state.history
        (state.history ++ [.observed player.id (contentKey player)]) := by
    intro id other content
    have keeps : (Mark.observed player.id (contentKey player)).Keeps id
        content := fun same => absurd same other
    exact keeps.stays _
  refine ⟨⟨⟨Nat.le_succ _, fun _ member => member, ?_⟩,
    ⟨stored.cached, ?_, ?_⟩, rfl, rfl, rfl, rfl, rfl, rfl, ?_, ?_⟩, ?_, rfl⟩
  · intro id session found
    rw [getElem?_insert] at found
    split at found
    · cases found
      exact .inl (Nat.lt_succ_self _)
    · rename_i other
      exact .inr ⟨session, found, rfl, rfl, apart id other _⟩
  · intro id session found
    rw [getElem?_insert] at found
    split at found
    · cases found
      exact Nat.le_refl _
    · exact Nat.le_succ_of_le (stored.begun id session found)
  · intro id session found metadata shown
    rw [getElem?_insert] at found
    split at found
    · cases found
      cases shown
    · rename_i other
      exact (stored.held id session found metadata shown).stays
        (apart id other _) fun _ member => member
  · intro id foreign
    rw [getElem?_insert, if_neg (fun same => foreign (by simp [same]))]
  · intro id foreign content
    exact apart id (fun same => foreign (by simp [same])) content
  · rw [getElem?_insert, if_pos rfl]

theorem opened_observe {state : Enrichment} (stored : Stored state)
    (player : MediaPlayer) :
    Opened player state (state.observe player).1 (state.observe player).2 := by
  by_cases changed :
      ((state.sessions[player.id]?).getD .default).generation = 0 ∨
        contentKey ((state.sessions[player.id]?).getD .default).observed ≠
          contentKey player
  · have observed : state.observe player =
        ({ state.marked (.observed player.id (contentKey player)) with
            generation := state.generation + 1
            sessions := state.sessions.insert player.id
              ⟨player, state.generation + 1, none⟩ },
          ⟨player, state.generation + 1, none⟩) :=
      if_pos changed
    rw [observed]
    exact opened_fresh stored player
  · have observed : state.observe player =
        (state.marked (.observed player.id (contentKey player)),
          (state.sessions[player.id]?).getD .default) :=
      if_neg changed
    obtain ⟨begun, same⟩ := not_or.mp changed
    have content := not_not.mp same
    cases found : state.sessions[player.id]? with
    | none =>
        rw [found] at begun
        exact absurd rfl begun
    | some session =>
        rw [found] at observed content
        rw [observed]
        refine ⟨touches_mark stored ?_ ?_, found, content⟩
        · rintro id other seen rfl
          cases found.symm.trans seen
          exact content.symm
        · intro id foreign content here
          exact absurd (List.mem_singleton.mpr here.symm) foreign

/-- A player that has been prepared, with the request that it makes. -/
structure Served (player : MediaPlayer) (before after : Enrichment)
    (session : Session) (request : Option (String × Ticket)) : Prop where
  opened : Opened player before after session
  bound : ∀ video ticket, request = some (video, ticket) →
    after.Bound video ticket ∧ video ∉ after.pending

/-- Put metadata that its player has asked for into a session. -/
theorem touches_session {state : Enrichment} (stored : Stored state)
    {id : String} {session : Session} (found : state.sessions[id]? = some session)
    (metadata : Option Metadata)
    (known : ∀ value, metadata = some value →
      state.Known id (contentKey session.observed) value) :
    Touches [id] state
      { state with
        sessions := state.sessions.insert id { session with metadata } } := by
  have evolves : Evolves state
      { state with
        sessions := state.sessions.insert id { session with metadata } } := by
    refine ⟨Nat.le_refl _, fun _ member => member, ?_⟩
    intro other later shown
    rw [getElem?_insert] at shown
    split at shown
    · rename_i same
      cases shown
      exact .inr ⟨session, same ▸ found, rfl, rfl, .refl _ _ _⟩
    · exact .inr ⟨later, shown, rfl, rfl, .refl _ _ _⟩
  refine ⟨evolves, ⟨stored.cached, ?_, ?_⟩, rfl, rfl, rfl, rfl, rfl, rfl, ?_,
    fun _ _ _ => .refl _ _ _⟩
  · intro other later shown
    rw [getElem?_insert] at shown
    split at shown
    · cases shown
      exact stored.begun id session found
    · exact stored.begun other later shown
  · intro other later shown value given
    rw [getElem?_insert] at shown
    split at shown
    · rename_i same
      cases shown
      exact same ▸ known value given
    · exact stored.held other later shown value given
  · intro other foreign
    rw [getElem?_insert, if_neg (fun same => foreign (by simp [same]))]

/-- Only what was fetched goes into the cache. -/
theorem touches_cache {state : Enrichment} (stored : Stored state)
    (cache : ExtTreeMap String Cached) (ids : List String)
    (cached : ∀ (video : String) (entry : Cached), cache[video]? = some entry →
      ∀ metadata, entry.metadata = some metadata →
        (video, metadata) ∈ state.fetched) :
    Touches ids state { state with cache } where
  evolves := ⟨Nat.le_refl _, fun _ member => member,
    fun _ session found => .inr ⟨session, found, rfl, rfl, .refl _ _ _⟩⟩
  stored := ⟨cached, stored.begun, stored.held⟩
  enabled := rfl
  tasks := rfl
  pending := rfl
  requestWindow := rfl
  requestsStarted := rfl
  starts := rfl
  others _ _ := rfl
  stays _ _ _ := .refl _ _ _

theorem served_lookup {before state : Enrichment} {player : MediaPlayer}
    {session : Session} (opened : Opened player before state session)
    (now : Nat) (video : String) :
    Served player before (state.lookup now player session video).1
      (state.lookup now player session video).2.1
      (state.lookup now player session video).2.2 := by
  obtain ⟨touches, found, same⟩ := opened
  have asks : Touches [player.id] state
      (state.marked (.asked player.id (contentKey player) video)) :=
    touches_mark touches.stored (fun _ _ _ => trivial)
      fun _ _ _ => trivial
  have asked : Asked
      (state.history ++ [.asked player.id (contentKey player) video])
      player.id (contentKey session.observed) video := by
    rw [same]
    exact ⟨state.history, .refl _ _ _⟩
  rw [lookup]
  cases cached : state.cache[video]? with
  | some entry =>
      have used := touches_cache asks.stored
        (state.cache.insert video { entry with used := now }) [player.id] (by
          intro other later shown metadata given
          rw [getElem?_insert] at shown
          split at shown
          · rename_i here
            cases shown
            exact here ▸ touches.stored.cached video entry cached metadata given
          · exact touches.stored.cached other later shown metadata given)
      have filled := touches_session used.stored found
        (entry.metadata.or session.metadata) (by
          intro metadata given
          obtain hit | ⟨-, kept⟩ := Option.or_eq_some_iff.mp given
          · exact ⟨video, asked,
              touches.stored.cached video entry cached metadata hit⟩
          · exact asks.stored.held _ session found metadata kept)
      refine ⟨⟨touches.trans (asks.trans (used.trans filled)), ?_, same⟩, ?_⟩
      · exact (getElem?_insert _ _ _ _).trans (if_pos rfl)
      · intro other ticket none
        cases none
  | none =>
      dsimp only
      split
      · exact ⟨⟨touches, found, same⟩, nofun⟩
      · rename_i free
        refine ⟨⟨touches.trans asks, found, same⟩, ?_⟩
        intro other ticket request
        cases request
        refine ⟨⟨touches.stored.begun _ session found, ?_⟩, ?_⟩
        · intro later shown _
          cases found.symm.trans shown
          exact asked
        · exact fun member => free (List.contains_iff_mem.mpr member)

variable {videoOf : String → Option String} {order : Iteration}

theorem served_preparePlayer {state : Enrichment} (stored : Stored state)
    (now : Nat) (player : MediaPlayer) :
    ∃ session, Served player state (state.preparePlayer videoOf now player).1
        session (state.preparePlayer videoOf now player).2.2 ∧
      (state.preparePlayer videoOf now player).2.1 = session.fill player := by
  have opened := opened_observe stored player
  cases wanted : lookupVideo videoOf player with
  | none =>
      rw [preparePlayer, wanted]
      refine ⟨(state.observe player).2, ⟨opened, ?_⟩, rfl⟩
      intro other ticket none
      cases none
  | some video =>
      rw [preparePlayer, wanted]
      exact ⟨_, served_lookup opened now video, rfl⟩

theorem put_fill {before after : Enrichment} {player : MediaPlayer}
    {session : Session} (opened : Opened player before after session) :
    after.Put player (session.fill player) := by
  unfold Session.fill
  split
  · rename_i metadata given
    refine (put_self after player).apply ?_
    rw [← opened.same]
    exact opened.touches.stored.held _ session opened.found metadata given
  · exact put_self after player

/-- What is shown of a player whose session is of what it has. -/
structure Fits (state : Enrichment) (raw shown : MediaPlayer) : Prop where
  put : state.Put raw shown
  observed : state.Observed raw

theorem Fits.touches {before after : Enrichment} {ids : List String}
    (touches : Touches ids before after) {raw shown : MediaPlayer}
    (foreign : raw.id ∉ ids) (fits : before.Fits raw shown) :
    after.Fits raw shown :=
  ⟨fits.put.stays (touches.stays _ foreign _) touches.evolves.fetched,
    observed_touches touches foreign fits.observed⟩

/-- Every ticket is good, and no video is pending. -/
def Granted (state : Enrichment) (requests : Requests) : Prop :=
  ∀ (video : String) (tickets : List Ticket), requests[video]? = some tickets →
    (∀ ticket ∈ tickets, state.Bound video ticket) ∧ video ∉ state.pending

theorem Granted.touches {before after : Enrichment} {ids : List String}
    (touches : Touches ids before after) {requests : Requests}
    (granted : before.Granted requests) : after.Granted requests := by
  intro video tickets found
  obtain ⟨bound, free⟩ := granted video tickets found
  exact ⟨fun ticket member => (bound ticket member).evolves touches.evolves,
    touches.pending ▸ free⟩

theorem granted_addRequest {state : Enrichment} {requests : Requests}
    (granted : state.Granted requests) {request : Option (String × Ticket)}
    (bound : ∀ video ticket, request = some (video, ticket) →
      state.Bound video ticket ∧ video ∉ state.pending) :
    state.Granted (addRequest requests request) := by
  match request, bound with
  | none, _ => exact granted
  | some (video, ticket), bound =>
      obtain ⟨good, free⟩ := bound video ticket rfl
      intro other tickets found
      rw [addRequest, getElem?_insert] at found
      split at found
      · rename_i same
        subst same
        cases found
        refine ⟨fun later member => ?_, free⟩
        obtain old | new := List.mem_append.mp member
        · cases earlier : requests[video]? with
          | none =>
              rw [earlier] at old
              cases old
          | some tickets =>
              rw [earlier] at old
              exact (granted video tickets earlier).1 later old
        · rw [List.mem_singleton.mp new]
          exact good
      · exact granted other tickets found

/-- All players have been prepared. -/
structure Arranged (players : List MediaPlayer) (before after : Enrichment)
    (requests : Requests) (shown : List MediaPlayer) : Prop where
  touches : Touches (players.map MediaPlayer.id) before after
  granted : after.Granted requests
  fits : List.Forall₂ after.Fits players shown

theorem arranged_preparePlayers {players : List MediaPlayer}
    (distinct : (players.map MediaPlayer.id).Nodup) (now : Nat)
    {state : Enrichment} (stored : Stored state) {requests : Requests}
    (granted : state.Granted requests) :
    Arranged players state
      (preparePlayers videoOf now state requests players).1
      (preparePlayers videoOf now state requests players).2.1
      (preparePlayers videoOf now state requests players).2.2 := by
  induction players generalizing state requests with
  | nil => exact ⟨.refl stored _, granted, .nil⟩
  | cons player players ih =>
      obtain ⟨fresh, distinct⟩ := List.nodup_cons.mp distinct
      obtain ⟨session, served, filled⟩ :=
        @served_preparePlayer videoOf state stored now player
      have first := served.opened.touches
      have rest := ih distinct first.stored
        (granted_addRequest (granted.touches first) served.bound)
      have shown : Fits (state.preparePlayer videoOf now player).1 player
          (state.preparePlayer videoOf now player).2.1 := by
        rw [filled]
        exact ⟨put_fill served.opened, session, served.opened.found,
          served.opened.same⟩
      refine ⟨?_, rest.granted, .cons ?_ rest.fits⟩
      · exact (first.mono (by simp)).trans (rest.touches.mono (by simp))
      · exact shown.touches rest.touches fresh

end Enrichment

end BarDaemon.Media
