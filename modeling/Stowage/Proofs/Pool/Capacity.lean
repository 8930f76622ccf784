import Stowage.Proofs.Pool.Nested

/-!
A larger cache never opens more connections.

The same steps are taken on two pools, one of which may keep more idle handles than the other
(`play`). A step acquires a handle or gives back what an earlier one has acquired, which is answered
with other handles in the two pools; `Paired` says which of them go together. It holds after all
steps that can be taken (`Proper.paired`), and `play_monotone` is what it says of keys, holders and
clients.
-/

namespace Stowage.Pool

variable {σ κ : Type}

/-! ## Steps -/

/-- A step: to acquire a handle, or to give back what an earlier step has acquired. -/
inductive Task where
  | acquire (pipeline : Pipeline) (containerId : Int)
  | giveBack (position : Nat)
  deriving DecidableEq

/-- The request that a step makes, once those before it have been answered. What has been refused
need not be given back. -/
def Task.request? (answers : List (Answer κ)) : Task → Option (Request κ)
  | acquire pipeline containerId => some (.acquire pipeline containerId)
  | giveBack position =>
    match answers[position]? with
    | some (.ok (some h)) => some (.release h)
    | _ => none

/-- Take a step. -/
def Task.play (c : Connector σ (Numbered κ)) (state : List (Answer κ) × Session σ) (task : Task) :
    List (Answer κ) × Session σ :=
  match task.request? state.1 with
  | none => (state.1 ++ [.ok none], state.2)
  | some request =>
    let r := (request.serve c).runFrom state.2
    (state.1 ++ [r.1], r.2)

/-- Take steps one after the other, from a session. -/
def play (c : Connector σ (Numbered κ)) (s : Session σ) (tasks : List Task) :
    List (Answer κ) × Session σ :=
  tasks.foldl (Task.play c) ([], s)

theorem play_concat (c : Connector σ (Numbered κ)) (s : Session σ) (tasks : List Task)
    (task : Task) : play c s (tasks ++ [task]) = task.play c (play c s tasks) :=
  List.foldl_concat ..

/-- Steps that can be taken: pipelines have keys, and only what an earlier step has acquired is given
back, and only once. -/
inductive Proper : List Task → Prop
  | nil : Proper []
  | acquire {before : List Task} (pipeline : Pipeline) (containerId : Int) : Proper before →
    pipeline.key ≠ "" → Proper (before ++ [.acquire pipeline containerId])
  | giveBack {before : List Task} (position : Nat) (pipeline : Pipeline) (containerId : Int) :
    Proper before → before[position]? = some (.acquire pipeline containerId) →
    .giveBack position ∉ before → Proper (before ++ [.giveBack position])

theorem Proper.of_prefix {tasks soFar : List Task} (h : Proper tasks) (hsoFar : soFar <+: tasks) :
    Proper soFar := by
  induction h with
  | nil => exact List.prefix_nil.1 hsoFar ▸ .nil
  | acquire pipeline containerId h hkey ih =>
    rcases List.prefix_concat_iff.1 hsoFar with rfl | hsoFar
    · exact .acquire pipeline containerId h hkey
    · exact ih hsoFar
  | giveBack position pipeline containerId h hacquired honce ih =>
    rcases List.prefix_concat_iff.1 hsoFar with rfl | hsoFar
    · exact .giveBack position pipeline containerId h hacquired honce
    · exact ih hsoFar

/-- What an acquisition has come to in the two pools: it has been refused in both, or what it was
answered with is lent. -/
inductive Answered (lent : List Loan) (position : Nat) :
    Option (Answer κ) → Option (Answer κ) → Prop
  | refused (f f' : Failure) : Answered lent position (some (.error f)) (some (.error f'))
  | given (g g' : Handle (Numbered κ)) : ⟨position, g.number, g'.number⟩ ∈ lent →
    Answered lent position (some (.ok (some g))) (some (.ok (some g')))

theorem Answered.mono {lent lent' : List Loan} {position : Nat} {a a' : Option (Answer κ)}
    (h : Answered lent position a a') (hlent : ∀ x ∈ lent, x.position = position → x ∈ lent') :
    Answered lent' position a a' := by
  cases h with
  | refused f f' => exact .refused f f'
  | given g g' hx => exact .given g g' (hlent _ hx rfl)

/-- As often held, a handle is handed out in both pools or in none. -/
theorem answered_handOut {lent : List Loan} {position : Nat} {containerId : Int}
    {g g' : Handle (Numbered κ)} (hholders : g.holders = g'.holders)
    (hx : ⟨position, g.number, g'.number⟩ ∈ lent) :
    Answered lent position (some (handOut containerId g)) (some (handOut containerId g')) := by
  unfold handOut
  rw [hholders]
  by_cases hlong : (Decimal.isOverlong containerId || Decimal.isOverlong g'.holders) = true
  · rw [if_pos hlong, if_pos hlong]
    exact .refused _ _
  · rw [if_neg hlong, if_neg hlong]
    exact .given g g' hx

/-- What has been acquired and not given back has been refused in both pools, or it is lent. -/
def Accounted (lent : List Loan) (tasks : List Task) (answers answers' : List (Answer κ)) : Prop :=
  ∀ (position : Nat) pipeline containerId,
    tasks[position]? = some (.acquire pipeline containerId) → .giveBack position ∉ tasks →
    Answered lent position answers[position]? answers'[position]?

theorem getElem?_concat_cases {α : Type} {l : List α} {last a : α} {n : Nat}
    (h : (l ++ [last])[n]? = some a) : l[n]? = some a ∧ n < l.length ∨ n = l.length ∧ last = a := by
  have hbound : n < l.length + 1 := by
    have hlt := (List.getElem?_eq_some_iff.1 h).1
    rwa [List.length_append] at hlt
  rcases Nat.lt_succ_iff_lt_or_eq.1 hbound with hlt | rfl
  · rw [List.getElem?_append_left hlt] at h
    exact .inl ⟨h, hlt⟩
  · rw [List.getElem?_concat_length] at h
    exact .inr ⟨rfl, Option.some.inj h⟩

/-- One more step is accounted for. -/
theorem Accounted.concat {lent lent' : List Loan} {tasks : List Task}
    {answers answers' : List (Answer κ)} (h : Accounted lent tasks answers answers')
    (hlength : answers.length = tasks.length) (hlength' : answers'.length = tasks.length)
    {last : Task} {answer answer' : Answer κ}
    (hlent : ∀ x ∈ lent, last ≠ .giveBack x.position → x ∈ lent')
    (hlast : ∀ pipeline containerId, last = .acquire pipeline containerId →
      Answered lent' tasks.length (some answer) (some answer')) :
    Accounted lent' (tasks ++ [last]) (answers ++ [answer]) (answers' ++ [answer']) := by
  intro position pipeline containerId hacquired hkept
  rcases getElem?_concat_cases hacquired with ⟨hacquired, hlt⟩ | ⟨rfl, rfl⟩
  · rw [List.getElem?_append_left (hlength ▸ hlt), List.getElem?_append_left (hlength' ▸ hlt)]
    have hbefore := h position pipeline containerId hacquired fun hmem =>
      hkept (List.mem_append_left _ hmem)
    refine hbefore.mono fun x hx hposition => hlent x hx fun hreturned => hkept ?_
    rw [← hposition, ← hreturned]
    exact List.mem_append_right _ List.mem_cons_self
  · have hanswer : (answers ++ [answer])[tasks.length]? = some answer := by
      rw [← hlength, List.getElem?_concat_length]
    have hanswer' : (answers' ++ [answer'])[tasks.length]? = some answer' := by
      rw [← hlength', List.getElem?_concat_length]
    rw [hanswer, hanswer']
    exact hlast pipeline containerId rfl

/-- Two pools after the same steps. -/
structure Paired (maxIdle maxIdle' : Nat) (tasks : List Task)
    (state state' : List (Answer κ) × Session (Ledger σ κ)) : Prop where
  writable : Log.Writable state.2
  writable' : Log.Writable state'.2
  length : state.1.length = tasks.length
  length' : state'.1.length = tasks.length
  nested : ∃ lent, Nested maxIdle maxIdle' lent state.2.world.books state'.2.world.books ∧
    Accounted lent tasks state.1 state'.1

theorem Task.length_play (c : Connector σ (Numbered κ)) (state : List (Answer κ) × Session σ)
    (task : Task) : (task.play c state).1.length = state.1.length + 1 := by
  unfold Task.play
  split <;> exact List.length_append ..

namespace Paired

variable {source : Source σ κ} {maxIdle maxIdle' : Nat} {tasks : List Task}
  {state state' : List (Answer κ) × Session (Ledger σ κ)}

theorem length_play (hlength : state.1.length = tasks.length)
    (c : Connector (Ledger σ κ) (Numbered κ)) (task : Task) :
    (task.play c state).1.length = (tasks ++ [task]).length := by
  rw [Task.length_play, hlength, List.length_append]
  rfl

theorem acquire (horderly : source.Orderly) (hopens : source.Opens)
    (h : Paired maxIdle maxIdle' tasks state state') {pipeline : Pipeline} (hkey : pipeline.key ≠ "")
    (containerId : Int) :
    Paired maxIdle maxIdle' (tasks ++ [.acquire pipeline containerId])
      ((Task.acquire pipeline containerId).play (source.connector maxIdle) state)
      ((Task.acquire pipeline containerId).play (source.connector maxIdle') state') := by
  obtain ⟨lent, hnested, haccounted⟩ := h.nested
  have hserve : Arrives ((Request.acquire pipeline containerId).serve (source.connector maxIdle))
      state.2 _ := Source.arrives_serve_acquire horderly h.writable pipeline containerId
  have hserve' : Arrives ((Request.acquire pipeline containerId).serve (source.connector maxIdle'))
      state'.2 _ := Source.arrives_serve_acquire horderly h.writable' pipeline containerId
  have hc : state.2.world.books.Change maxIdle _ _ _ :=
    (Source.serve_change horderly (.acquire pipeline containerId) state.2 h.writable rfl).2
  have hc' : state'.2.world.books.Change maxIdle' _ _ _ :=
    (Source.serve_change horderly (.acquire pipeline containerId) state'.2 h.writable' rfl).2
  obtain ⟨g, g', hg, hg', hholders, hafter⟩ := hnested.acquire hopens hkey hserve.2 hserve'.2
    (hnested.tidy.change hc) (hnested.tidy'.change hc') tasks.length
  refine ⟨hserve.1, hserve'.1, length_play h.length _ _, length_play h.length' _ _, _, hafter, ?_⟩
  refine haccounted.concat h.length h.length' (fun x hx _ => List.mem_append_left _ hx) ?_
  rintro - - -
  rw [hg, hg']
  exact answered_handOut hholders (List.mem_append_right _ List.mem_cons_self)

theorem giveBack (horderly : source.Orderly) (h : Paired maxIdle maxIdle' tasks state state')
    {position : Nat} {pipeline : Pipeline} {containerId : Int}
    (hacquired : tasks[position]? = some (.acquire pipeline containerId))
    (honce : .giveBack position ∉ tasks) :
    Paired maxIdle maxIdle' (tasks ++ [.giveBack position])
      ((Task.giveBack position).play (source.connector maxIdle) state)
      ((Task.giveBack position).play (source.connector maxIdle') state') := by
  obtain ⟨lent, hnested, haccounted⟩ := h.nested
  have hlength := length_play h.length (source.connector maxIdle) (.giveBack position)
  have hlength' := length_play h.length' (source.connector maxIdle') (.giveBack position)
  have hposition := haccounted position pipeline containerId hacquired honce
  generalize hgiven : state.1[position]? = given at hposition
  generalize hgiven' : state'.1[position]? = given' at hposition
  cases hposition with
  | refused f f' =>
    simp only [Task.play, Task.request?, hgiven, hgiven'] at hlength hlength' ⊢
    refine ⟨h.writable, h.writable', hlength, hlength', lent, hnested, ?_⟩
    refine haccounted.concat h.length h.length' (fun x hx _ => hx) ?_
    rintro _ _ hacquire
    cases hacquire
  | given g g' hx =>
    obtain ⟨hu, hc⟩ := Source.serve_change horderly (.release g) state.2 h.writable rfl
    obtain ⟨hu', hc'⟩ := Source.serve_change horderly (.release g') state'.2 h.writable' rfl
    have hafter := hnested.release hx rfl rfl hc hc'
    simp only [Task.play, Task.request?, hgiven, hgiven'] at hlength hlength' ⊢
    refine ⟨hu, hu', hlength, hlength', _, hafter, ?_⟩
    refine haccounted.concat h.length h.length' (fun x hx hne => ?_) ?_
    · refine (List.mem_erase_of_ne ?_).2 hx
      rintro rfl
      exact hne rfl
    · rintro _ _ hacquire
      cases hacquire

end Paired

/-- Steps that can be taken keep two pools paired. -/
theorem Proper.paired {source : Source σ κ} (horderly : source.Orderly) (hopens : source.Opens)
    {maxIdle maxIdle' : Nat} (hle : maxIdle ≤ maxIdle') {s s' : Session (Ledger σ κ)}
    (hs : Log.Writable s) (hs' : Log.Writable s') (hempty : s.world.books = {})
    (hempty' : s'.world.books = {}) {tasks : List Task} (h : Proper tasks) :
    Paired maxIdle maxIdle' tasks (play (source.connector maxIdle) s tasks)
      (play (source.connector maxIdle') s' tasks) := by
  induction h with
  | nil =>
    refine ⟨hs, hs', rfl, rfl, [], ?_, fun _ _ _ hnone => by cases hnone⟩
    change Nested maxIdle maxIdle' [] s.world.books s'.world.books
    rw [hempty, hempty']
    exact .empty hle
  | acquire pipeline containerId _ hkey ih =>
    rw [play_concat, play_concat]
    exact ih.acquire horderly hopens hkey containerId
  | giveBack position pipeline containerId _ hacquired honce ih =>
    rw [play_concat, play_concat]
    exact ih.giveBack horderly hacquired honce

/-- **A larger cache never opens more connections.** The same steps are taken on two pools, of which
the second may keep at least as many idle handles. If clients can always be opened, then after every
step all keys cached in the first pool are cached in the second one; the handle cached under a key
has as many holders in both, none where there is no handle; the same handles are retired, with as
many holders; and the second pool has opened no more clients. -/
theorem play_monotone {source : Source σ κ} (horderly : source.Orderly) (hopens : source.Opens)
    {maxIdle maxIdle' : Nat} (hle : maxIdle ≤ maxIdle') {s s' : Session (Ledger σ κ)}
    (hs : Log.Writable s) (hs' : Log.Writable s') (hempty : s.world.books = {})
    (hempty' : s'.world.books = {}) {tasks soFar : List Task} (h : Proper tasks)
    (hsoFar : soFar <+: tasks) :
    let b := (play (source.connector maxIdle) s soFar).2.world.books
    let b' := (play (source.connector maxIdle') s' soFar).2.world.books
    let held (a : Handle (Numbered κ)) := (a.key, a.pipeline.leader, a.holders)
    (∀ key ∈ b.pool.cached.map Handle.key, key ∈ b'.pool.cached.map Handle.key) ∧
      (∀ key, (b.pool.find? key).elim 0 Handle.holders =
        (b'.pool.find? key).elim 0 Handle.holders) ∧
      b.pool.retired.map held = b'.pool.retired.map held ∧
      b'.opened ≤ b.opened := by
  intro b b' held
  have hpaired := (h.of_prefix hsoFar).paired horderly hopens hle hs hs' hempty hempty'
  obtain ⟨lent, hnested, -⟩ := hpaired.nested
  refine ⟨hnested.keys, hnested.holders, hnested.map_retired fun a a' hm => ?_, hnested.opened⟩
  simp only [held, hm.key, hm.leader, hm.holders]

/-- A pipeline is acquired twice, one time after the other: without room for idle handles a second
client is opened, with room for one it is not. -/
theorem play_monotone_again :
    let pipeline : Pipeline :=
      ⟨some "p", ["n1", "n2"], "n1", .opened, .standAlone, .one, by decide⟩
    let tasks := [.acquire pipeline 7, .giveBack 0, .acquire pipeline 8]
    let s : Session (Ledger Unit Unit) := { world := { outside := () } }
    let b := (play (stubborn.connector 0) s tasks).2.world.books
    let b' := (play (stubborn.connector 1) s tasks).2.world.books
    stubborn.Orderly ∧ stubborn.Opens ∧ Log.Writable s ∧ Proper tasks ∧ b.opened = 2 ∧
      b'.opened = 1 ∧ b'.opened ≤ b.opened ∧
      (b.pool.find? "p").elim 0 Handle.holders = (b'.pool.find? "p").elim 0 Handle.holders := by
  intro pipeline tasks s b b'
  have hs : Log.Writable s := .inr (List.forall_mem_nil _)
  have hopens : stubborn.Opens := fun _ _ => ⟨(), rfl⟩
  have hacquired : Proper ([] ++ [.acquire pipeline 7]) := .acquire pipeline 7 .nil (by decide)
  have hreturned : Proper ([.acquire pipeline 7] ++ [.giveBack 0]) :=
    .giveBack 0 pipeline 7 hacquired rfl (by decide)
  have hproper : Proper tasks := .acquire pipeline 8 hreturned (by decide)
  have hmonotone := play_monotone orderly_stubborn hopens (Nat.zero_le 1) hs hs rfl rfl hproper
    (List.prefix_refl tasks)
  have htwo : b.opened = 2 := by decide +kernel
  have hone : b'.opened = 1 := by decide +kernel
  obtain ⟨-, hholders, -, hopened⟩ := hmonotone
  exact ⟨orderly_stubborn, hopens, hs, hproper, htwo, hone, hopened, hholders "p"⟩

end Stowage.Pool
