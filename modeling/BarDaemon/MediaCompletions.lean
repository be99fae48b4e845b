import BarDaemon.MediaBindings

/-!
# Soundness of the media coordinator

Each step keeps what the maps hold and what the tasks carry tied to what was
asked for and fetched.
-/

namespace BarDaemon.Media

open Std OrderedMaps TransitionRuns

namespace Enrichment

variable {videoOf : String → Option String} {order : Iteration}

structure Sound (state : Enrichment) : Prop where
  stored : Stored state
  tied : Tied state

theorem sound_initial (enabled : Bool) : Sound (initial enabled) where
  stored := by
    refine ⟨?_, ?_, ?_⟩
    all_goals
      intro key value found
      rw [initial, ExtTreeMap.getElem?_empty] at found
      cases found
  tied := ⟨fun _ member => (nomatch member),
    fun _ member => (nomatch member), fun _ => rfl⟩

/-! ### Steps that leave the sessions alone -/

/-- Only the tasks and what counts them differ. -/
structure Alike (before after : Enrichment) : Prop where
  enabled : after.enabled = before.enabled
  generation : after.generation = before.generation
  sessions : after.sessions = before.sessions
  cache : after.cache = before.cache
  history : after.history = before.history
  fetched : after.fetched = before.fetched

theorem Alike.stays {before after : Enrichment} (alike : Alike before after)
    (id : String) (content : Content) :
    Stays id content before.history after.history := by
  rw [alike.history]
  exact .refl _ _ _

theorem Alike.evolves {before after : Enrichment}
    (alike : Alike before after) : Evolves before after where
  generation := Nat.le_of_eq alike.generation.symm
  fetched _ member := alike.fetched ▸ member
  sessions _ session found :=
    .inr ⟨session, alike.sessions ▸ found, rfl, rfl, alike.stays _ _⟩

theorem Alike.stored {before after : Enrichment} (alike : Alike before after)
    (stored : Stored before) : Stored after where
  cached video entry found metadata given :=
    alike.evolves.fetched
      (stored.cached video entry (alike.cache ▸ found) metadata given)
  begun id session found :=
    alike.generation ▸ stored.begun id session (alike.sessions ▸ found)
  held id session found metadata given :=
    (stored.held id session (alike.sessions ▸ found) metadata given).stays
      (alike.stays _ _) alike.evolves.fetched

theorem Alike.fits {before after : Enrichment} (alike : Alike before after)
    {raw shown : MediaPlayer} (fits : before.Fits raw shown) :
    after.Fits raw shown := by
  obtain ⟨put, session, found, same⟩ := fits
  exact ⟨put.stays (alike.stays _ _) alike.evolves.fetched, session,
    alike.sessions ▸ found, same⟩

/-! ### Starting lookups -/

theorem alike_spawn (state : Enrichment) (video : String)
    (tickets : List Ticket) : Alike state (state.spawn video tickets) :=
  ⟨rfl, rfl, rfl, rfl, rfl, rfl⟩

theorem alike_start (requests : List (String × List Ticket))
    (state : Enrichment) : Alike state (state.start requests) := by
  induction requests generalizing state with
  | nil => exact ⟨rfl, rfl, rfl, rfl, rfl, rfl⟩
  | cons request requests ih =>
      rw [start]
      split
      · exact ⟨rfl, rfl, rfl, rfl, rfl, rfl⟩
      · have rest := ih (state.spawn request.1 request.2)
        exact ⟨rest.enabled, rest.generation, rest.sessions, rest.cache,
          rest.history, rest.fetched⟩

theorem tied_spawn {state : Enrichment} (tied : Tied state)
    (enabled : state.enabled = true) {video : String} {tickets : List Ticket}
    (bound : ∀ ticket ∈ tickets, state.Bound video ticket) :
    Tied (state.spawn video tickets) where
  bound task member ticket held := by
    obtain old | new := List.mem_append.mp member
    · exact (tied.bound task old ticket held).evolves
        (alike_spawn state video tickets).evolves
    · cases List.mem_singleton.mp new
      exact (bound ticket held).evolves
        (alike_spawn state video tickets).evolves
  finished task member metadata done := by
    obtain old | new := List.mem_append.mp member
    · exact tied.finished task old metadata done
    · cases List.mem_singleton.mp new
      cases done
  idle disabled := by
    change state.enabled = false at disabled
    rw [enabled] at disabled
    cases disabled

theorem tied_start {requests : List (String × List Ticket)}
    {state : Enrichment} (tied : Tied state) (enabled : state.enabled = true)
    (bound : ∀ request ∈ requests, ∀ ticket ∈ request.2,
      state.Bound request.1 ticket) : Tied (state.start requests) := by
  induction requests generalizing state with
  | nil => exact tied
  | cons request requests ih =>
      rw [start]
      split
      · exact tied
      · refine ih (tied_spawn tied enabled (bound request (by simp))) enabled ?_
        intro other member ticket held
        exact (bound other (List.mem_cons_of_mem _ member) ticket held).evolves
          (alike_spawn state _ _).evolves

/-! ### Preparing -/

/-- A session that outlives a reading is of a player that is there. -/
theorem found_renew {state : Enrichment} {now : Nat} {players : Players}
    {id : String} {session : Session}
    (found : (state.renew now players).sessions[id]? = some session) :
    state.sessions[id]? = some session ∧
      ∀ content, Stays id content state.history
        (state.renew now players).history := by
  have kept : (state.renew now players).sessions =
      state.sessions.filter fun id _ =>
        players.list.any fun player => player.id == id := by
    unfold renew
    split <;> rfl
  have read : (state.renew now players).history =
      state.history ++ [.read (players.list.map MediaPlayer.id)] := by
    unfold renew
    split <;> rfl
  rw [kept, ExtTreeMap.getElem?_filter'] at found
  obtain ⟨found, present⟩ := Option.filter_eq_some_iff.mp found
  refine ⟨found, fun content => ?_⟩
  obtain ⟨player, member, same⟩ := List.any_eq_true.mp present
  have keeps : (Mark.read (players.list.map MediaPlayer.id)).Keeps id
      content :=
    List.mem_map.mpr ⟨player, member, beq_iff_eq.mp same⟩
  rw [read]
  exact keeps.stays _

theorem renew_fetched (state : Enrichment) (now : Nat) (players : Players) :
    (state.renew now players).fetched = state.fetched := by
  unfold renew
  split <;> rfl

theorem renew_generation (state : Enrichment) (now : Nat) (players : Players) :
    (state.renew now players).generation = state.generation := by
  unfold renew
  split <;> rfl

theorem evolves_renew (state : Enrichment) (now : Nat) (players : Players) :
    Evolves state (state.renew now players) where
  generation := Nat.le_of_eq (renew_generation state now players).symm
  fetched _ member := by rwa [renew_fetched]
  sessions id session found := by
    obtain ⟨before, stays⟩ := found_renew found
    exact .inr ⟨session, before, rfl, rfl, stays _⟩

theorem stored_renew {state : Enrichment} (stored : Stored state) (now : Nat)
    (players : Players) : Stored (state.renew now players) where
  cached video entry found := by
    have kept : (state.renew now players).cache =
        state.cache.filter fun _ entry => now < entry.expires := by
      unfold renew
      split <;> rfl
    rw [kept, ExtTreeMap.getElem?_filter'] at found
    rw [renew_fetched]
    exact stored.cached video entry (Option.filter_eq_some_iff.mp found).1
  begun id session found := by
    rw [renew_generation]
    exact stored.begun id session (found_renew found).1
  held id session found metadata shown := by
    obtain ⟨before, stays⟩ := found_renew found
    exact (stored.held id session before metadata shown).stays (stays _)
      (evolves_renew state now players).fetched

theorem renew_enabled (state : Enrichment) (now : Nat) (players : Players) :
    (state.renew now players).enabled = state.enabled := by
  unfold renew
  split <;> rfl

theorem renew_tasks (state : Enrichment) (now : Nat) (players : Players) :
    (state.renew now players).tasks = state.tasks := by
  unfold renew
  split <;> rfl

theorem renew_pending (state : Enrichment) (now : Nat) (players : Players) :
    (state.renew now players).pending = state.pending := by
  unfold renew
  split <;> rfl

/-- The state in which lookups are started, with the requests for them. -/
theorem arranged_renew {state : Enrichment} (stored : Stored state) (now : Nat)
    (players : Players) :
    Arranged players.list (state.renew now players)
      (preparePlayers videoOf now (state.renew now players) ∅ players.list).1
      (preparePlayers videoOf now (state.renew now players) ∅ players.list).2.1
      (preparePlayers videoOf now (state.renew now players) ∅
        players.list).2.2 := by
  refine arranged_preparePlayers players.distinct now
    (stored_renew stored now players) ?_
  intro video tickets found
  rw [ExtTreeMap.getElem?_empty] at found
  cases found

theorem prepare_enabled {state : Enrichment} (enabled : state.enabled = true)
    (now : Nat) (players : Players) :
    state.prepare videoOf order now players =
      let prepared :=
        preparePlayers videoOf now (state.renew now players) ∅ players.list
      (prepared.1.start (order.arrange prepared.2.1.toList), prepared.2.2) := by
  rw [prepare, if_pos enabled]

theorem prepare_disabled {state : Enrichment} (disabled : state.enabled = false)
    (now : Nat) (players : Players) :
    state.prepare videoOf order now players = (state, players.list) := by
  rw [prepare, disabled]
  rfl

/-- A sound state that has evolved, with what is shown of the players. -/
structure Shows (relation : Enrichment → MediaPlayer → MediaPlayer → Prop)
    (before : Enrichment) (players : List MediaPlayer)
    (result : Enrichment × List MediaPlayer) : Prop where
  evolves : Evolves before result.1
  sound : Sound result.1
  shown : List.Forall₂ (relation result.1) players result.2

theorem shows_prepare {state : Enrichment} (sound : Sound state)
    (enabled : state.enabled = true) (now : Nat) (players : Players) :
    Shows Fits state players.list
      (state.prepare videoOf order now players) := by
  have arranged := @arranged_renew videoOf state sound.stored now players
  have touches := arranged.touches
  have evolves := (evolves_renew state now players).trans touches.evolves
  rw [prepare_enabled enabled]
  dsimp only
  generalize preparePlayers videoOf now (state.renew now players) ∅
    players.list = prepared at arranged touches evolves ⊢
  have alike := alike_start (order.arrange prepared.2.1.toList) prepared.1
  have still := (touches.enabled.trans (renew_enabled ..)).trans enabled
  have tied : Tied prepared.1 := by
    refine sound.tied.evolves evolves ?_
      (touches.enabled.trans (renew_enabled ..))
    intro task member
    rwa [touches.tasks, renew_tasks] at member
  refine ⟨evolves.trans alike.evolves, ⟨alike.stored touches.stored, ?_⟩, ?_⟩
  · refine tied_start tied still ?_
    intro request member ticket held
    have listed := (order.perm _).mem_iff.mp member
    exact (arranged.granted request.1 request.2
      (ExtTreeMap.mem_toList_iff_getElem?_eq_some.mp listed)).1 ticket held
  · exact arranged.fits.imp fun _ _ fits => alike.fits fits

/-! ### Completing a lookup -/

theorem fits_putOn {state : Enrichment} {raws shown : List MediaPlayer}
    (fits : List.Forall₂ state.Fits raws shown) {id : String}
    {metadata : Metadata}
    (known : ∀ raw ∈ raws, raw.id = id →
      state.Known raw.id (contentKey raw) metadata) :
    List.Forall₂ state.Fits raws (putOn id metadata shown) := by
  induction fits with
  | nil => exact .nil
  | @cons raw player raws players first rest ih =>
      rw [putOn]
      split
      · rename_i here
        have asked := known raw (by simp) (first.put.id.symm.trans here)
        exact .cons ⟨first.put.apply asked, first.observed⟩ rest
      · exact .cons first (ih fun other member =>
          known other (List.mem_cons_of_mem _ member))

/-- The content that a session was begun with stays. -/
theorem fits_session {state : Enrichment} {id : String} {session : Session}
    (found : state.sessions[id]? = some session) (metadata : Option Metadata)
    {raw shown : MediaPlayer} (fits : state.Fits raw shown)
    (evolves : Evolves state
      { state with
        sessions := state.sessions.insert id { session with metadata } }) :
    Fits
      { state with
        sessions := state.sessions.insert id { session with metadata } }
      raw shown := by
  obtain ⟨put, old, seen, same⟩ := fits
  refine ⟨put.stays (.refl _ _ _) evolves.fetched, ?_⟩
  by_cases here : id = raw.id
  · subst here
    cases found.symm.trans seen
    exact ⟨_, (getElem?_insert _ _ _ _).trans (if_pos rfl), same⟩
  · exact ⟨old, (getElem?_insert _ _ _ _).trans ((if_neg here).trans seen),
      same⟩

theorem observed_of_fits {state : Enrichment} {raws shown : List MediaPlayer}
    (fits : List.Forall₂ state.Fits raws shown) :
    ∀ raw ∈ raws, state.Observed raw := by
  induction fits with
  | nil => exact fun _ member => nomatch member
  | cons first _ ih => exact List.forall_mem_cons.mpr ⟨first.observed, ih⟩

/-- What redeeming tickets keeps. -/
structure Redeems (raws : List MediaPlayer)
    (before after : Enrichment × List MediaPlayer) : Prop where
  evolves : Evolves before.1 after.1
  stored : Stored after.1
  enabled : after.1.enabled = before.1.enabled
  tasks : after.1.tasks = before.1.tasks
  fetched : after.1.fetched = before.1.fetched
  fits : List.Forall₂ after.1.Fits raws after.2

theorem redeems_redeem {raws : List MediaPlayer} {state : Enrichment}
    {shown : List MediaPlayer} (stored : Stored state)
    (fits : List.Forall₂ state.Fits raws shown) {video : String}
    {metadata : Metadata} (fetched : (video, metadata) ∈ state.fetched)
    {ticket : Ticket} (bound : state.Bound video ticket) :
    Redeems raws (state, shown) (redeem metadata (state, shown) ticket) := by
  have same : Redeems raws (state, shown) (state, shown) :=
    ⟨.refl state, stored, rfl, rfl, rfl, fits⟩
  rw [redeem.eq_def]
  dsimp only
  cases found : state.sessions[ticket.player]? with
  | none => exact same
  | some session =>
      dsimp only
      split
      · rename_i good
        have asked := bound.2 session found good.1
        have touches := touches_session stored found (some metadata) (by
          intro value given
          cases given
          exact ⟨video, asked, fetched⟩)
        have all := fits.imp fun _ _ fits =>
          fits_session found (some metadata) fits touches.evolves
        refine ⟨touches.evolves, touches.stored, rfl, rfl, rfl, ?_⟩
        refine fits_putOn all ?_
        intro raw member here
        obtain ⟨old, seen, content⟩ := observed_of_fits fits raw member
        rw [here] at seen
        cases found.symm.trans seen
        refine ⟨video, ?_, fetched⟩
        rw [← content, here]
        exact asked
      · exact same

theorem redeems_foldl {raws : List MediaPlayer} {tickets : List Ticket}
    {state : Enrichment} {shown : List MediaPlayer} (stored : Stored state)
    (fits : List.Forall₂ state.Fits raws shown) {video : String}
    {metadata : Metadata} (fetched : (video, metadata) ∈ state.fetched)
    (bound : ∀ ticket ∈ tickets, state.Bound video ticket) :
    Redeems raws (state, shown)
      (tickets.foldl (redeem metadata) (state, shown)) := by
  induction tickets generalizing state shown with
  | nil => exact ⟨.refl state, stored, rfl, rfl, rfl, fits⟩
  | cons ticket tickets ih =>
      have first := redeems_redeem stored fits fetched (bound ticket (by simp))
      rw [List.foldl_cons]
      generalize redeem metadata (state, shown) ticket = next at first ⊢
      have rest := ih first.stored first.fits (first.evolves.fetched fetched)
        (fun other member =>
          (bound other (List.mem_cons_of_mem _ member)).evolves first.evolves)
      exact ⟨first.evolves.trans rest.evolves, rest.stored,
        rest.enabled.trans first.enabled, rest.tasks.trans first.tasks,
        rest.fetched.trans first.fetched, rest.fits⟩

/-- Only what was there and the new result are cached. -/
theorem getElem?_cacheResult {cache : ExtTreeMap String Cached}
    {video other : String} {metadata : Option Metadata} {now ttl : Nat}
    {entry : Cached}
    (found : (cacheResult order cache video metadata now ttl)[other]? =
      some entry) :
    (other = video ∧ entry.metadata = metadata) ∨ cache[other]? = some entry := by
  have room : ∀ (smaller : ExtTreeMap String Cached),
      (∀ (key : String) (kept : Cached), smaller[key]? = some kept →
        cache[key]? = some kept) →
      (smaller.insert video ⟨metadata, now + ttl, now⟩)[other]? = some entry →
      (other = video ∧ entry.metadata = metadata) ∨
        cache[other]? = some entry := by
    intro smaller within shown
    rw [getElem?_insert] at shown
    split at shown
    · rename_i same
      cases shown
      exact .inl ⟨same.symm, rfl⟩
    · exact .inr (within other entry shown)
  refine room _ ?_ found
  intro key kept shown
  split at shown
  · split at shown
    · rw [getElem?_erase] at shown
      split at shown
      · cases shown
      · exact shown
    · exact shown
  · exact shown

/-- A result that its lookup has fetched, with tickets that are good. -/
structure Earned (state : Enrichment) (result : Completed) : Prop where
  bound : ∀ ticket ∈ result.tickets, state.Bound result.video ticket
  fetched : ∀ metadata, result.metadata = some metadata →
    (result.video, metadata) ∈ state.fetched

theorem Earned.evolves {before after : Enrichment}
    (evolves : Evolves before after) {result : Completed}
    (earned : before.Earned result) : after.Earned result :=
  ⟨fun ticket member => (earned.bound ticket member).evolves evolves,
    fun metadata given => evolves.fetched (earned.fetched metadata given)⟩

theorem redeems_deliver {state : Enrichment} (sound : Sound state)
    {raws shown : List MediaPlayer}
    (fits : List.Forall₂ state.Fits raws shown) {result : Completed}
    (earned : state.Earned result) :
    Redeems raws (state, shown) (state.deliver result shown) := by
  have alike : Alike state
      { state with pending := state.pending.erase result.video } :=
    ⟨rfl, rfl, rfl, rfl, rfl, rfl⟩
  have still := fits.imp fun _ _ fits => alike.fits fits
  rw [deliver]
  cases given : result.metadata with
  | none =>
      exact ⟨alike.evolves, alike.stored sound.stored, rfl, rfl, rfl, still⟩
  | some metadata =>
      have later := redeems_foldl (alike.stored sound.stored) still
        (earned.fetched metadata given)
        (fun ticket member => (earned.bound ticket member).evolves
          alike.evolves)
      exact ⟨alike.evolves.trans later.evolves, later.stored, later.enabled,
        later.tasks, later.fetched, later.fits⟩

theorem shows_complete {state : Enrichment} (sound : Sound state)
    {raws shown : List MediaPlayer}
    (fits : List.Forall₂ state.Fits raws shown) {result : Completed}
    (earned : state.Earned result) (now : Nat) :
    Shows Put state raws (state.complete order now result shown) := by
  have redeems := redeems_deliver sound fits earned
  rw [complete]
  generalize state.deliver result shown = delivered at redeems ⊢
  obtain ⟨after, players⟩ := delivered
  have cached := touches_cache redeems.stored
    (cacheResult order after.cache result.video result.metadata now
      (ttlOf result.metadata)) []
    (by
      intro other entry found value given
      obtain ⟨rfl, new⟩ | old := getElem?_cacheResult found
      · exact redeems.evolves.fetched
          (earned.fetched value (new.symm.trans given))
      · exact redeems.stored.cached other entry old value given)
  refine ⟨redeems.evolves.trans cached.evolves, ⟨cached.stored, ?_⟩, ?_⟩
  · refine sound.tied.evolves (redeems.evolves.trans cached.evolves) ?_
      redeems.enabled
    intro task member
    exact redeems.tasks ▸ member
  · exact redeems.fits.imp fun _ _ fits =>
      fits.put.stays (.refl _ _ _) cached.evolves.fetched

end Enrichment

end BarDaemon.Media
