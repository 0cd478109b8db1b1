import RemoteCall.Client.Pool
import RemoteCall.Proofs.Client.Closing
import RemoteCall.Proofs.Client.LinkClosing

/-!
# A pool and its clients

A pool caches a client for each address, and the clients go on living outside of it: they were
handed out, so anybody may call and close them, and their connections may be lost.  `Pooling` is a
pool together with all clients that it has ever created, and its runs mix the operations of the pool
with whatever happens to the clients.

To replace a client takes two actions.  Under the lock of the pool the old client is taken out and a
new one is connected (`Pooling.ask`); the old one is closed after the lock was released
(`Pooling.part`).  Forgetting all clients is divided in the same way.  Other operations may come in
between, so a client that was taken out is in somebody's hands for a while (`Pooling.leaving`).  The
invariant is that nothing gets lost on the way: a client is cached, or in somebody's hands, or
closed (`Pooling.Sound`).

## Main statements

* `Pooling.sound_run` — the invariant holds in every run.
* `Pooling.forall_run` — what holds of new clients and is kept by all that happens to clients, holds
  of every client.
* `Pooling.pool_managed` — what is cached, what asking for a client comes to, and that every other
  client is closed.
-/

namespace RemoteCall

variable {κ : Type}

/-! ## What a pool has cached -/

namespace Pool

variable {ι : Type}

lemma find_cases (pool : Pool ι) (isConnected : ι → Bool) (address : String) :
    (∃ client, pool.get? address = some client ∧ isConnected client = true ∧
      pool.find isConnected address = .connected client) ∨
    (∃ client, pool.get? address = some client ∧ isConnected client = false ∧
      pool.find isConnected address = .stale client) ∨
    pool.get? address = none ∧ pool.find isConnected address = .nothing := by
  unfold find
  cases found : pool.get? address with
  | none => exact Or.inr (Or.inr ⟨rfl, rfl⟩)
  | some client =>
    cases connected : isConnected client with
    | true => exact Or.inl ⟨client, rfl, connected, if_pos connected⟩
    | false =>
      exact Or.inr (Or.inl ⟨client, rfl, connected, by simp [connected]⟩)

lemma get?_erase_of_ne (pool : Pool ι) {address other : String} (ne : other ≠ address) :
    (pool.erase address).get? other = pool.get? other :=
  Threaded.lookup_filter (fun key => decide (key ≠ address)) (decide_eq_true ne)

lemma get?_settle_self (pool : Pool ι) (address : String) (dialled : Except Error ι) :
    (pool.settle address dialled).get? address = dialled.toOption := by
  cases dialled with
  | error e => exact pool.get?_erase_self address
  | ok client => exact List.lookup_cons_self

lemma get?_settle_of_ne (pool : Pool ι) {address other : String} (ne : other ≠ address)
    (dialled : Except Error ι) : (pool.settle address dialled).get? other = pool.get? other := by
  cases dialled with
  | error e => exact pool.get?_erase_of_ne ne
  | ok client =>
    refine Eq.trans ?_ (pool.get?_erase_of_ne ne)
    unfold settle get?
    rw [List.lookup_cons, beq_eq_false_iff_ne.mpr ne]

/-- Forgetting an address takes out its client, and no other one. -/
lemma perm_erase {pool : Pool ι} (distinct : (pool.entries.map Prod.fst).Nodup)
    (address : String) : (pool.entries.map Prod.snd).Perm
      ((pool.get? address).toList ++ (pool.erase address).entries.map Prod.snd) := by
  cases found : pool.get? address with
  | none =>
    have all : pool.erase address = pool := by
      have absent := List.lookup_eq_none_iff.mp found
      unfold erase
      rw [List.filter_eq_self.mpr]
      intro entry among
      exact decide_eq_true fun same => absurd (absent entry among) (by simp [same])
    rw [all]
    exact .refl _
  | some client =>
    obtain ⟨before, after, split, -⟩ := List.lookup_eq_some_iff.mp found
    have others : (pool.erase address).entries = before ++ after := by
      rw [split, List.map_append, List.map_cons] at distinct
      have apart := List.nodup_middle.mp distinct
      rw [List.nodup_cons, ← List.map_append] at apart
      show pool.entries.filter _ = _
      rw [split, List.filter_append, List.filter_cons_of_neg (by simp), ← List.filter_append,
        List.filter_eq_self.mpr]
      intro entry among
      exact decide_eq_true fun same => apart.1 (List.mem_map.mpr ⟨entry, among, same⟩)
    rw [others, split, List.map_append, List.map_append]
    exact List.perm_middle

lemma nodup_erase {pool : Pool ι} (distinct : (pool.entries.map Prod.fst).Nodup)
    (address : String) : ((pool.erase address).entries.map Prod.fst).Nodup :=
  (List.filter_sublist.map Prod.fst).nodup distinct

lemma nodup_settle {pool : Pool ι} (distinct : (pool.entries.map Prod.fst).Nodup)
    (address : String) (dialled : Except Error ι) :
    ((pool.settle address dialled).entries.map Prod.fst).Nodup := by
  have others := nodup_erase distinct address
  cases dialled with
  | error e => exact others
  | ok client =>
    refine List.nodup_cons.mpr ⟨fun among => ?_, others⟩
    obtain ⟨entry, kept, same⟩ := List.mem_map.mp among
    have other := (List.mem_filter.mp kept).2
    exact of_decide_eq_true other same

end Pool

/-! ## A pool in use -/

/-- A pool and its clients. -/
structure Pooling (κ : Type) where
  registry : Registry
  settings : ClientSettings
  /-- The cached clients, by number. -/
  pool : Pool Nat
  /-- All clients that the pool has ever created; each is known by its number. -/
  clients : List (Link κ)
  /-- The clients that were taken out of the pool, and are still to be closed by those who have
  taken them out. -/
  leaving : List Nat

namespace Pooling

/-- A pool that was just created. -/
def start (registry : Registry) (settings : ClientSettings) : Pooling κ :=
  ⟨registry, settings, .empty, [], []⟩

/-- The clients that are cached. -/
def cached (state : Pooling κ) : List Nat := state.pool.entries.map Prod.snd

/-- Whether a client is connected. -/
def isConnected (state : Pooling κ) (i : Nat) : Bool :=
  (state.clients[i]?.map fun link => link.client.isConnected).getD false

/-- Connect, with a given outcome. -/
def connect (state : Pooling κ) : Except Error Unit → Except Error Nat × Pooling κ
  | .error e => (.error e, state)
  | .ok () => (.ok state.clients.length,
      { state with clients := state.clients ++ [.connected state.registry state.settings] })

/-- Ask for the client of an address, under the lock of the pool.  A client that is not connected is
taken out, and a new one takes its place if connecting succeeds. -/
def ask (state : Pooling κ) (address : String) (outcome : Except Error Unit) :
    Except Error Nat × Pooling κ :=
  match state.pool.find state.isConnected address with
  | .connected i => (.ok i, state)
  | _ =>
    let (dialled, next) := state.connect outcome
    (dialled, { next with
      pool := state.pool.settle address dialled
      leaving := state.leaving ++ (state.pool.get? address).toList })

/-- Take all clients out of the pool, under its lock. -/
def drain (state : Pooling κ) : Pooling κ :=
  { state with pool := state.pool.closeAll.1, leaving := state.leaving ++ state.pool.closeAll.2 }

/-- Whoever has taken out a client closes it. -/
def part (state : Pooling κ) (i : Nat) : Pooling κ :=
  if i ∈ state.leaving then
    { state with
      clients := state.clients.modify i fun link => link.close.1
      leaving := state.leaving.erase i }
  else state

/-- Ask for the client of an address, with nothing in between. -/
def get (state : Pooling κ) (address : String) (outcome : Except Error Unit) :
    Except Error Nat × Pooling κ :=
  let (result, next) := state.ask address outcome
  (result,
    match state.pool.find state.isConnected address with
    | .stale i => next.part i
    | _ => next)

/-- Forget and close all clients, with nothing in between. -/
def closeAll (state : Pooling κ) : Pooling κ := state.pool.closeAll.2.foldl part state.drain

/-- What happens to a pool and its clients. -/
inductive Event (κ : Type) where
  | get (address : String) (outcome : Except Error Unit)
  | closeAll
  /-- The first action of asking for a client. -/
  | ask (address : String) (outcome : Except Error Unit)
  /-- The first action of forgetting all clients. -/
  | drain
  /-- A client is closed after it was taken out. -/
  | part (i : Nat)
  /-- Anything happens to a client, or somebody does anything to it. -/
  | act (i : Nat) (event : Link.Event κ)

/-- Run one action. -/
def step (state : Pooling κ) : Event κ → Pooling κ
  | .get address outcome => (state.get address outcome).2
  | .closeAll => state.closeAll
  | .ask address outcome => (state.ask address outcome).2
  | .drain => state.drain
  | .part i => state.part i
  | .act i event =>
    { state with clients := state.clients.modify i fun link => (link.step event).1 }

/-- Run actions one after the other. -/
def run (state : Pooling κ) (events : List (Event κ)) : Pooling κ := events.foldl step state

/-! ## No client gets lost -/

/-- A client is closed, or somebody is closing it. -/
def Gone (state : Pooling κ) (i : Nat) : Prop :=
  ∀ link, state.clients[i]? = some link → link.client.closing ≠ .notClosed

/-- The clients of a pool are cached, in somebody's hands, or closed. -/
structure Sound (state : Pooling κ) : Prop where
  addresses : (state.pool.entries.map Prod.fst).Nodup
  apart : (state.cached ++ state.leaving).Nodup
  created : ∀ i ∈ state.cached ++ state.leaving, i < state.clients.length
  gone : ∀ i, i ∉ state.cached ++ state.leaving → state.Gone i

variable {state : Pooling κ}

lemma sound_start (registry : Registry) (settings : ClientSettings) :
    (start registry settings : Pooling κ).Sound :=
  ⟨List.nodup_nil, List.nodup_nil, fun i among => absurd among List.not_mem_nil,
    fun i _ link found => absurd found (by simp [start])⟩

lemma Gone.modify {i j : Nat} (gone : state.Gone j) {change : Link κ → Link κ}
    (begun : ∀ link, link.client.closing ≠ .notClosed →
      (change link).client.closing ≠ .notClosed) :
    Gone { state with clients := state.clients.modify i change } j := by
  intro link found
  obtain ⟨old, found', rfl⟩ := Option.map_eq_some_iff.mp
    ((List.getElem?_modify change i state.clients j).symm.trans found)
  split
  · exact begun old (gone old found')
  · exact gone old found'

lemma gone_modify_close (state : Pooling κ) (i : Nat) :
    Gone { state with clients := state.clients.modify i fun link => link.close.1 } i := by
  intro link found
  obtain ⟨old, -, rfl⟩ := Option.map_eq_some_iff.mp
    ((List.getElem?_modify _ i state.clients i).symm.trans found)
  rw [if_pos rfl]
  exact Link.begun_close old

lemma Sound.act (sound : state.Sound) (i : Nat) (event : Link.Event κ) :
    (state.step (.act i event)).Sound where
  addresses := sound.addresses
  apart := sound.apart
  created j among := Nat.lt_of_lt_of_eq (sound.created j among) (List.length_modify _ _ _).symm
  gone j other := (sound.gone j other).modify fun _ begun => Link.begun_step begun event

/-- A client that was taken out is closed. -/
theorem Sound.part (sound : state.Sound) (i : Nat) : (state.part i).Sound := by
  unfold Pooling.part
  split
  · rename_i among
    have perm : (state.cached ++ state.leaving).Perm
        (i :: (state.cached ++ state.leaving.erase i)) :=
      ((List.perm_cons_erase among).append_left _).trans List.perm_middle
    constructor
    case addresses => exact sound.addresses
    case apart => exact (List.nodup_cons.mp (perm.nodup_iff.mp sound.apart)).2
    case created =>
      intro j other
      rw [List.length_modify]
      exact sound.created j (perm.mem_iff.mpr (List.mem_cons_of_mem _ other))
    case gone =>
      intro j other
      by_cases same : i = j
      · exact same ▸ gone_modify_close state i
      · have before : j ∉ state.cached ++ state.leaving := by
          rw [perm.mem_iff, List.mem_cons, not_or]
          exact ⟨Ne.symm same, other⟩
        exact (sound.gone j before).modify fun _ begun => Link.begun_step begun .close
  · exact sound

/-- Clients go from one hand to another. -/
lemma Sound.regroup (sound : state.Sound) {pool : Pool Nat} {leaving : List Nat}
    (addresses : (pool.entries.map Prod.fst).Nodup)
    (perm : (state.cached ++ state.leaving).Perm (pool.entries.map Prod.snd ++ leaving)) :
    Sound { state with pool, leaving } where
  addresses := addresses
  apart := perm.nodup_iff.mp sound.apart
  created i among := sound.created i (perm.mem_iff.mpr among)
  gone i other := sound.gone i fun among => other (perm.mem_iff.mp among)

/-- A client that was just connected is in the hands of whoever has connected it. -/
lemma Sound.opened (sound : state.Sound) :
    Sound { state with
      clients := state.clients ++ [.connected state.registry state.settings]
      leaving := state.clients.length :: state.leaving } := by
  have perm : (state.cached ++ state.clients.length :: state.leaving).Perm
      (state.clients.length :: (state.cached ++ state.leaving)) := List.perm_middle
  constructor
  case addresses => exact sound.addresses
  case apart =>
    refine perm.nodup_iff.mpr (List.nodup_cons.mpr ⟨fun among => ?_, sound.apart⟩)
    exact Nat.lt_irrefl _ (sound.created _ among)
  case created =>
    intro i among
    rw [List.length_append]
    rcases List.mem_cons.mp (perm.mem_iff.mp among) with rfl | among
    · exact Nat.lt_succ_self _
    · exact Nat.lt_succ_of_lt (sound.created i among)
  case gone =>
    intro i other link found
    obtain ⟨new, other⟩ := List.ne_and_not_mem_of_not_mem_cons (mt perm.mem_iff.mpr other)
    refine sound.gone i other link ?_
    rcases Nat.lt_or_gt_of_ne new with old | beyond
    · rwa [List.getElem?_append_left old] at found
    · rw [List.getElem?_eq_none (by simpa using beyond)] at found
      exact nomatch found

lemma ask_of_connected {address : String} {i : Nat} (found : state.pool.get? address = some i)
    (connected : state.isConnected i = true) (outcome : Except Error Unit) :
    state.ask address outcome = (.ok i, state) := by
  unfold ask Pool.find
  simp only [found, connected, if_true]

/-- Without a client that is connected, a new one takes the place of what was cached. -/
lemma ask_of_else {address : String}
    (unfit : ∀ i, state.pool.get? address = some i → state.isConnected i = false)
    (outcome : Except Error Unit) :
    state.ask address outcome =
      ((state.connect outcome).1, { (state.connect outcome).2 with
        pool := state.pool.settle address (state.connect outcome).1
        leaving := state.leaving ++ (state.pool.get? address).toList }) := by
  unfold ask
  rcases state.pool.find_cases state.isConnected address with
    ⟨i, found, connected, -⟩ | ⟨i, -, -, stale⟩ | ⟨-, nothing⟩
  · rw [unfit i found] at connected
    exact absurd connected Bool.false_ne_true
  · rw [stale]
  · rw [nothing]

theorem Sound.ask (sound : state.Sound) (address : String) (outcome : Except Error Unit) :
    (state.ask address outcome).2.Sound := by
  by_cases fit : ∃ i, state.pool.get? address = some i ∧ state.isConnected i = true
  · obtain ⟨i, found, connected⟩ := fit
    rw [ask_of_connected found connected]
    exact sound
  · have unfit : ∀ i, state.pool.get? address = some i → state.isConnected i = false :=
      fun i found => Bool.eq_false_iff.mpr fun connected => fit ⟨i, found, connected⟩
    have perm := Pool.perm_erase sound.addresses address
    have moved : (state.cached ++ state.leaving).Perm
        ((state.pool.erase address).entries.map Prod.snd ++
          (state.leaving ++ (state.pool.get? address).toList)) := by
      refine ((perm.trans List.perm_append_comm).append_right _).trans ?_
      rw [List.append_assoc]
      exact List.perm_append_comm.append_left _
    rw [ask_of_else unfit]
    cases outcome with
    | error e => exact sound.regroup (Pool.nodup_settle sound.addresses address _) moved
    | ok =>
      refine sound.opened.regroup (Pool.nodup_settle sound.addresses address _) ?_
      exact List.perm_middle.trans (moved.cons _)

lemma Sound.drain (sound : state.Sound) : state.drain.Sound :=
  sound.regroup List.nodup_nil List.perm_append_comm

lemma Sound.parts (sound : state.Sound) (list : List Nat) :
    (list.foldl Pooling.part state).Sound := by
  induction list generalizing state with
  | nil => exact sound
  | cons i rest ih => exact ih (sound.part i)

lemma Sound.get (sound : state.Sound) (address : String) (outcome : Except Error Unit) :
    (state.get address outcome).2.Sound := by
  have asked := sound.ask address outcome
  unfold Pooling.get
  dsimp only
  split
  · exact asked.part _
  · exact asked

lemma Sound.step (sound : state.Sound) (event : Event κ) : (state.step event).Sound := by
  cases event with
  | get address outcome => exact sound.get address outcome
  | closeAll => exact sound.drain.parts _
  | ask address outcome => exact sound.ask address outcome
  | drain => exact sound.drain
  | part i => exact sound.part i
  | act i event => exact sound.act i event

theorem sound_run (registry : Registry) (settings : ClientSettings) (events : List (Event κ)) :
    ((start registry settings).run events).Sound := by
  have keeps : ∀ (state : Pooling κ) (list : List (Event κ)), state.Sound →
      (state.run list).Sound := by
    intro state list sound
    induction list generalizing state with
    | nil => exact sound
    | cons event rest ih => exact ih _ (sound.step event)
  exact keeps _ events (sound_start registry settings)

/-! ## Every client -/

section

variable {P : Link κ → Prop}

lemma forall_modify {clients : List (Link κ)} (holds : ∀ link ∈ clients, P link) (i : Nat)
    {change : Link κ → Link κ} (keeps : ∀ link, P link → P (change link)) :
    ∀ link ∈ clients.modify i change, P link := by
  intro link among
  obtain ⟨j, found⟩ := List.mem_iff_getElem?.mp among
  obtain ⟨old, found', rfl⟩ := Option.map_eq_some_iff.mp
    ((List.getElem?_modify change i clients j).symm.trans found)
  have before := holds old (List.mem_of_getElem? found')
  split
  · exact keeps old before
  · exact before

lemma forall_part (closes : ∀ link, P link → P link.close.1)
    (holds : ∀ link ∈ state.clients, P link) (i : Nat) :
    ∀ link ∈ (state.part i).clients, P link := by
  unfold part
  split
  · exact forall_modify holds i closes
  · exact holds

lemma forall_parts (closes : ∀ link, P link → P link.close.1)
    (holds : ∀ link ∈ state.clients, P link) (list : List Nat) :
    ∀ link ∈ (list.foldl part state).clients, P link := by
  induction list generalizing state with
  | nil => exact holds
  | cons i rest ih => exact ih (forall_part closes holds i)

lemma forall_ask (new : ∀ registry settings, P (.connected registry settings))
    (holds : ∀ link ∈ state.clients, P link) (address : String) (outcome : Except Error Unit) :
    ∀ link ∈ (state.ask address outcome).2.clients, P link := by
  have connects : ∀ link ∈ (state.connect outcome).2.clients, P link := by
    cases outcome with
    | error => exact holds
    | ok =>
      intro link among
      rcases List.mem_append.mp among with old | fresh
      · exact holds link old
      · rw [List.mem_singleton.mp fresh]
        exact new _ _
  unfold ask
  split
  · exact holds
  · exact connects

/-- What holds of new clients, and is kept by all that happens to clients, holds of every client. -/
theorem forall_run {events : List (Event κ)}
    (new : ∀ registry settings, P (.connected registry settings))
    (closes : ∀ link, P link → P link.close.1)
    (acts : ∀ i event, .act i event ∈ events → ∀ link, P link → P (link.step event).1)
    (holds : ∀ link ∈ state.clients, P link) : ∀ link ∈ (state.run events).clients, P link := by
  induction events generalizing state with
  | nil => exact holds
  | cons event rest ih =>
    refine ih (fun i other later => acts i other (List.mem_cons_of_mem _ later)) ?_
    cases event with
    | get address outcome =>
      have asked := forall_ask new holds address outcome
      show ∀ link ∈ (state.get address outcome).2.clients, P link
      unfold get
      dsimp only
      split
      · exact forall_part closes asked _
      · exact asked
    | closeAll =>
      have drained : ∀ link ∈ state.drain.clients, P link := holds
      exact forall_parts closes drained _
    | ask address outcome => exact forall_ask new holds address outcome
    | drain => exact holds
    | part i => exact forall_part closes holds i
    | act i other => exact forall_modify holds i (acts i other List.mem_cons_self)

end

/-! ## Asking for a client -/

/-- What asking for the client of an address comes to. -/
structure Answers (state : Pooling κ) (address : String) (outcome : Except Error Unit)
    (answer : Except Error Nat × Pooling κ) : Prop where
  /-- The cached client is returned if and only if it is connected. -/
  cached : ∀ i, state.pool.get? address = some i →
    (answer.1 = .ok i ↔ state.isConnected i = true)
  /-- Nothing else happens then. -/
  unchanged : ∀ i, state.pool.get? address = some i → state.isConnected i = true →
    answer.2 = state
  /-- Otherwise a new client is returned, or the failure to connect. -/
  otherwise : (∀ i, state.pool.get? address = some i → state.isConnected i = false) →
    answer.1 = outcome.map fun _ => state.clients.length
  /-- What is returned is now cached for the address, and connected. -/
  returned : ∀ i, answer.1 = .ok i →
    answer.2.pool.get? address = some i ∧ answer.2.isConnected i = true
  /-- After a failure nothing is cached for the address, and no client was created. -/
  refused : ∀ e, answer.1 = .error e → outcome = .error e ∧
    answer.2.pool.get? address = none ∧ answer.2.clients.length = state.clients.length
  /-- Other addresses keep what is cached for them. -/
  others : ∀ other, other ≠ address → answer.2.pool.get? other = state.pool.get? other
  /-- Nothing happens to a client that is not cached for the address. -/
  untouched : ∀ i link, state.clients[i]? = some link → state.pool.get? address ≠ some i →
    answer.2.clients[i]? = some link

lemma mem_cached {address : String} {i : Nat} (found : state.pool.get? address = some i) :
    i ∈ state.cached := by
  obtain ⟨before, after, split, -⟩ := List.lookup_eq_some_iff.mp found
  unfold cached
  rw [split, List.map_append]
  exact List.mem_append_right _ List.mem_cons_self

lemma connect_fst (state : Pooling κ) (outcome : Except Error Unit) :
    (state.connect outcome).1 = outcome.map fun _ => state.clients.length := by
  cases outcome <;> rfl

lemma Sound.answers_ask (sound : state.Sound) (address : String)
    (outcome : Except Error Unit) : Answers state address outcome (state.ask address outcome) := by
  by_cases fit : ∃ i, state.pool.get? address = some i ∧ state.isConnected i = true
  · obtain ⟨i, found, connected⟩ := fit
    rw [ask_of_connected found connected]
    constructor
    case cached =>
      intro j same
      obtain rfl : i = j := Option.some.inj (found.symm.trans same)
      exact ⟨fun _ => connected, fun _ => rfl⟩
    case unchanged => exact fun _ _ _ => rfl
    case otherwise =>
      intro unfit
      exact absurd connected (Bool.eq_false_iff.mp (unfit i found))
    case returned =>
      intro j same
      obtain rfl : i = j := Except.ok.inj same
      exact ⟨found, connected⟩
    case refused => exact nofun
    case others => exact fun _ _ => rfl
    case untouched => exact fun _ _ found _ => found
  · have unfit : ∀ i, state.pool.get? address = some i → state.isConnected i = false :=
      fun i found => Bool.eq_false_iff.mpr fun connected => fit ⟨i, found, connected⟩
    rw [ask_of_else unfit]
    constructor
    case cached =>
      intro i found
      refine ⟨fun same => ?_, fun connected => absurd ⟨i, found, connected⟩ fit⟩
      -- a cached client has a number, and the new one gets the next
      have old := sound.created i (List.mem_append_left _ (mem_cached found))
      cases outcome with
      | error => exact nomatch same
      | ok => exact absurd (Except.ok.inj same) (Nat.ne_of_gt old)
    case unchanged => exact fun i found connected => absurd ⟨i, found, connected⟩ fit
    case otherwise => exact fun _ => state.connect_fst outcome
    case returned =>
      intro i same
      refine ⟨?_, ?_⟩
      · dsimp only at same ⊢
        rw [Pool.get?_settle_self, same]
        rfl
      · cases outcome with
        | error => exact nomatch same
        | ok =>
          obtain rfl : state.clients.length = i := Except.ok.inj same
          show (Option.map _ (state.clients ++ [_])[state.clients.length]?).getD false = true
          rw [List.getElem?_concat_length]
          rfl
    case refused =>
      intro e failed
      cases outcome with
      | error =>
        exact ⟨congrArg _ (Except.error.inj failed), state.pool.get?_erase_self address, rfl⟩
      | ok => exact nomatch failed
    case others => exact fun _ ne => state.pool.get?_settle_of_ne ne _
    case untouched =>
      intro i link found _
      cases outcome with
      | error => exact found
      | ok =>
        obtain ⟨old, -⟩ := List.getElem?_eq_some_iff.mp found
        exact (List.getElem?_append_left old).trans found

lemma pool_part (state : Pooling κ) (i : Nat) : (state.part i).pool = state.pool := by
  unfold part
  split <;> rfl

lemma getElem?_part {i j : Nat} (ne : j ≠ i) :
    (state.part i).clients[j]? = state.clients[j]? := by
  unfold part
  split
  · rw [List.getElem?_modify]
    simp [Ne.symm ne]
  · rfl

/-- The client that was replaced is closed at the end. -/
theorem Answers.part {address : String} {outcome : Except Error Unit}
    {answer : Except Error Nat × Pooling κ} (answers : Answers state address outcome answer)
    {i : Nat} (stale : state.pool.get? address = some i) (lost : state.isConnected i = false) :
    Answers state address outcome (answer.1, answer.2.part i) := by
  have unfit : ∀ j, state.pool.get? address = some j → state.isConnected j = false := by
    intro j found
    obtain rfl : i = j := Option.some.inj (stale.symm.trans found)
    exact lost
  have replaced : answer.1 ≠ .ok i := by
    intro same
    rw [(answers.cached i stale).mp same] at lost
    exact nomatch lost
  constructor
  case cached => exact answers.cached
  case unchanged =>
    intro j found connected
    rw [unfit j found] at connected
    exact nomatch connected
  case otherwise => exact answers.otherwise
  case returned =>
    intro j same
    obtain ⟨found, connected⟩ := answers.returned j same
    have ne : j ≠ i := fun stale => replaced (stale ▸ same)
    refine ⟨(congrArg (·.get? address) (pool_part _ i)).trans found, ?_⟩
    unfold isConnected at connected ⊢
    rwa [getElem?_part ne]
  case refused =>
    intro e failed
    obtain ⟨same, nothing, count⟩ := answers.refused e failed
    refine ⟨same, (congrArg (·.get? address) (pool_part _ i)).trans nothing, ?_⟩
    unfold Pooling.part
    split
    · exact (List.length_modify _ _ _).trans count
    · exact count
  case others =>
    intro other ne
    exact (congrArg (·.get? other) (pool_part _ i)).trans (answers.others other ne)
  case untouched =>
    intro j link found other
    have ne : j ≠ i := fun same => other (same ▸ stale)
    rw [getElem?_part ne]
    exact answers.untouched j link found other

lemma get_of_stale {address : String} {i : Nat} (stale : state.pool.get? address = some i)
    (lost : state.isConnected i = false) (outcome : Except Error Unit) :
    state.get address outcome =
      ((state.ask address outcome).1, (state.ask address outcome).2.part i) := by
  unfold get Pool.find
  simp [stale, lost]

lemma get_of_fresh {address : String}
    (fresh : ∀ i, state.pool.get? address = some i → state.isConnected i = true)
    (outcome : Except Error Unit) : state.get address outcome = state.ask address outcome := by
  unfold get
  rcases state.pool.find_cases state.isConnected address with
    ⟨i, -, -, connected⟩ | ⟨i, found, lost, -⟩ | ⟨-, nothing⟩
  · rw [connected]
  · rw [fresh i found] at lost
    exact nomatch lost
  · rw [nothing]

/-- A client is asked for, and either nothing is replaced or an old client is closed. -/
lemma get_cases (state : Pooling κ) (address : String) (outcome : Except Error Unit) :
    (∃ i, state.pool.get? address = some i ∧ state.isConnected i = false ∧
      state.get address outcome =
        ((state.ask address outcome).1, (state.ask address outcome).2.part i)) ∨
    (∀ i, state.pool.get? address = some i → state.isConnected i = true) ∧
      state.get address outcome = state.ask address outcome := by
  by_cases lost : ∃ i, state.pool.get? address = some i ∧ state.isConnected i = false
  · obtain ⟨i, stale, lost⟩ := lost
    exact Or.inl ⟨i, stale, lost, get_of_stale stale lost outcome⟩
  · have fresh : ∀ i, state.pool.get? address = some i → state.isConnected i = true :=
      fun i found => Bool.not_eq_false _ |>.mp fun stale => lost ⟨i, found, stale⟩
    exact Or.inr ⟨fresh, get_of_fresh fresh outcome⟩

lemma Sound.answers_get (sound : state.Sound) (address : String)
    (outcome : Except Error Unit) : Answers state address outcome (state.get address outcome) := by
  have asked := sound.answers_ask address outcome
  rcases get_cases state address outcome with ⟨i, stale, lost, acted⟩ | ⟨-, acted⟩
  · rw [acted]
    exact asked.part stale lost
  · rw [acted]
    exact asked

/-! ## In nobody's hands -/

lemma leaving_part {i : Nat} {before after : List Nat}
    (split : state.leaving = before ++ i :: after) (other : i ∉ before) :
    (state.part i).leaving = before ++ after := by
  unfold part
  rw [if_pos (by rw [split]; exact List.mem_append_right _ List.mem_cons_self)]
  show state.leaving.erase i = _
  rw [split, List.erase_append_right _ other, List.erase_cons_head]

lemma leaving_parts {before list : List Nat} (split : state.leaving = before ++ list)
    (apart : state.leaving.Nodup) : (list.foldl part state).leaving = before := by
  induction list generalizing state with
  | nil => exact split.trans (List.append_nil _)
  | cons i rest ih =>
    rw [split] at apart
    obtain ⟨new, apart'⟩ := List.nodup_cons.mp (List.nodup_middle.mp apart)
    have parted := leaving_part split fun among => new (List.mem_append_left _ among)
    exact ih parted (parted ▸ apart')

lemma leaving_ask {address : String} {i : Nat} (stale : state.pool.get? address = some i)
    (lost : state.isConnected i = false) (outcome : Except Error Unit) :
    (state.ask address outcome).2.leaving = state.leaving ++ [i] := by
  have unfit : ∀ j, state.pool.get? address = some j → state.isConnected j = false := by
    intro j found
    obtain rfl : i = j := Option.some.inj (stale.symm.trans found)
    exact lost
  rw [ask_of_else unfit, stale]
  rfl

lemma gone_part {i : Nat} (among : i ∈ state.leaving) : (state.part i).Gone i := by
  unfold part
  rw [if_pos among]
  exact gone_modify_close state i

/-- Whoever asks for a client is left with none to close. -/
lemma Sound.leaving_get (sound : state.Sound) (address : String) (outcome : Except Error Unit) :
    (state.get address outcome).2.leaving = state.leaving := by
  rcases get_cases state address outcome with ⟨i, stale, lost, acted⟩ | ⟨fresh, acted⟩
  · have other : i ∉ state.leaving :=
      fun among => (List.nodup_append.mp sound.apart).2.2 i (mem_cached stale) i among rfl
    rw [acted]
    exact (leaving_part (leaving_ask stale lost outcome) other).trans (List.append_nil _)
  · rw [acted]
    by_cases fit : ∃ i, state.pool.get? address = some i
    · obtain ⟨i, found⟩ := fit
      rw [ask_of_connected found (fresh i found)]
    · have nothing : state.pool.get? address = none :=
        Option.eq_none_iff_forall_ne_some.mpr fun i found => fit ⟨i, found⟩
      rw [ask_of_else (by simp [nothing]), nothing]
      cases outcome <;> exact List.append_nil _

lemma Sound.leaving_closeAll (sound : state.Sound) :
    state.closeAll.leaving = state.leaving := by
  have apart : state.drain.leaving.Nodup := List.perm_append_comm.nodup_iff.mp sound.apart
  exact leaving_parts rfl apart

lemma pool_closeAll (state : Pooling κ) : state.closeAll.pool = .empty := by
  have kept : ∀ (list : List Nat) (state : Pooling κ),
      (list.foldl part state).pool = state.pool := by
    intro list
    induction list with
    | nil => exact fun _ => rfl
    | cons i rest ih => exact fun state => (ih _).trans (pool_part state i)
  exact kept _ state.drain

lemma Sound.gone_closeAll (sound : state.Sound) {i : Nat} (free : i ∉ state.leaving) :
    state.closeAll.Gone i := by
  refine (sound.step .closeAll).gone i fun among => ?_
  have nothing : state.closeAll.cached = [] :=
    congrArg (·.entries.map Prod.snd) (pool_closeAll state)
  rcases List.mem_append.mp among with cached | leaving
  · rw [show (state.step .closeAll).cached = [] from nothing] at cached
    exact nomatch cached
  · rw [show (state.step .closeAll).leaving = _ from sound.leaving_closeAll] at leaving
    exact free leaving

/-- Nobody comes between the actions of an operation of the pool. -/
def Event.IsWhole : Event κ → Prop
  | .ask .. | .drain | .part _ => False
  | _ => True

lemma leaving_run {events : List (Event κ)} (whole : ∀ event ∈ events, event.IsWhole)
    (sound : state.Sound) : (state.run events).leaving = state.leaving := by
  induction events generalizing state with
  | nil => rfl
  | cons event rest ih =>
    have first : (state.step event).leaving = state.leaving := by
      cases event with
      | get address outcome => exact sound.leaving_get address outcome
      | closeAll => exact sound.leaving_closeAll
      | act => rfl
      | ask | drain | part => exact (whole _ List.mem_cons_self).elim
    have others := ih (fun event later => whole event (List.mem_cons_of_mem _ later))
      (sound.step event)
    exact others.trans first

/-! ## What is managed -/

/-- What a pool has done for its clients after some actions. -/
structure Managed (events : List (Event κ)) (state : Pooling κ) : Prop where
  /-- At most one client is cached for an address. -/
  addresses : (state.pool.entries.map Prod.fst).Nodup
  /-- No client is cached for two addresses, and none that somebody is about to close. -/
  apart : (state.cached ++ state.leaving).Nodup
  get : ∀ address outcome, Answers state address outcome (state.get address outcome)
  /-- Already when the lock of the pool is released, it is so. -/
  ask : ∀ address outcome, Answers state address outcome (state.ask address outcome)
  /-- A client that is replaced is closed before the new one is returned. -/
  replaced : ∀ address outcome i, state.pool.get? address = some i →
    state.isConnected i = false → (state.get address outcome).2.Gone i
  /-- Every client is cached, or it is closed, unless somebody has taken it out to close it. -/
  gone : ∀ i, i ∉ state.cached → i ∉ state.leaving → state.Gone i
  /-- Nobody has, between the operations of the pool. -/
  settled : (∀ event ∈ events, event.IsWhole) → state.leaving = []
  /-- What is closed takes no calls, reads nothing, and has let go of its connection. -/
  closed : ∀ link ∈ state.clients, link.client.closing = .closed → link.Closed
  /-- Clients are closed to the end unless somebody who closes one is still at it. -/
  thorough : (∀ i, .act i .closeNext ∉ events) →
    ∀ link ∈ state.clients, link.client.closing = .notClosed ∨ link.client.closing = .closed
  /-- After all clients were forgotten none is cached, and all are closed. -/
  closeAll : state.closeAll.pool = .empty ∧ state.closeAll.leaving = state.leaving ∧
    ∀ i, i ∉ state.leaving → state.closeAll.Gone i

/-- A pool caches one client for an address, hands it out as long as it is connected, and closes
every other client that it has created. -/
theorem pool_managed (registry : Registry) (settings : ClientSettings) (events : List (Event κ)) :
    Managed events ((start registry settings).run events) := by
  have sound : ((start registry settings : Pooling κ).run events).Sound :=
    sound_run registry settings events
  have orderly : ∀ link ∈ ((start registry settings : Pooling κ).run events).clients,
      link.Orderly :=
    forall_run Link.orderly_connected (fun _ orderly => orderly.step .close)
      (fun _ event _ _ orderly => orderly.step event) fun _ among => absurd among List.not_mem_nil
  constructor
  case addresses => exact sound.addresses
  case apart => exact sound.apart
  case get => exact sound.answers_get
  case ask => exact sound.answers_ask
  case replaced =>
    intro address outcome i stale lost
    rw [get_of_stale stale lost]
    refine gone_part ?_
    rw [leaving_ask stale lost]
    exact List.mem_append_right _ List.mem_cons_self
  case gone =>
    intro i uncached free
    exact sound.gone i fun among => (List.mem_append.mp among).elim uncached free
  case settled => exact fun whole => leaving_run whole (sound_start registry settings)
  case closed => exact fun link among => (orderly link among).closed
  case thorough =>
    intro never
    refine forall_run (fun _ _ => Or.inl rfl) ?_ ?_ fun _ among => absurd among List.not_mem_nil
    · exact fun link whole => Link.whole_close whole
    · intro i event among link whole
      exact Link.whole_step whole fun part => never i (part ▸ among)
  case closeAll =>
    exact ⟨pool_closeAll _, sound.leaving_closeAll, fun i free => sound.gone_closeAll free⟩

/-- A client that was closed from outside is replaced when it is asked for again. -/
example : (run (start .empty {} : Pooling Nat)
    [.get "a" (.ok ()), .act 0 .close, .get "b" (.ok ()), .get "a" (.ok ())]).pool.entries =
      [("a", 2), ("b", 1)] := by cbv

end Pooling

end RemoteCall
