import Stowage.Proofs.Pool.Connections

/-!
Which node a handle is for.

A handle is given out again for a pipeline with the same key and the same leader, whereas a client
is opened for the leader or, without one, for the first member. So the two agree for a pipeline that
has a leader, and for one that has none as long as its first member stays the same
(`Traffic.targets_iff`); they part when pipelines without a leader share a name
(`Traffic.not_targets_leaderless`).
-/

namespace Stowage.Pool

open Http (Client Url)

variable {nodes : DatanodeSettings} {pool after : Pool Client} {w w' : World}
  {pipeline : Pipeline} {asked : List Pipeline}

/-- The client sends its requests to the node that requests to a pipeline go to. -/
def Targets (nodes : DatanodeSettings) (client : Client) (pipeline : Pipeline) : Prop :=
  baseFor nodes pipeline = .ok client.base

theorem Targets.baseText {client : Client} (h : Targets nodes client pipeline) :
    (baseFor nodes pipeline).toOption.map Url.text = some client.baseText := by
  rw [show baseFor nodes pipeline = .ok client.base from h]
  rfl

/-- Sessions that come of acquiring and releasing handles, with the pipelines that handles have been
asked for. -/
inductive Traffic (nodes : DatanodeSettings) (s : Session World) :
    List Pipeline → Session World → Prop
  | start : Traffic nodes s [] s
  | acquire {asked : List Pipeline} {t : Session World} : Traffic nodes s asked t →
    ∀ (pipeline : Pipeline) (containerId : Int), Traffic nodes s (asked ++ [pipeline])
      (((wired nodes).acquire pipeline containerId).runFrom t).2
  | release {asked : List Pipeline} {t : Session World} : Traffic nodes s asked t →
    ∀ handle : NetworkHandle,
      Traffic nodes s asked (((wired nodes).release handle).runFrom t).2
  | close {asked : List Pipeline} {t : Session World} : Traffic nodes s asked t →
    Traffic nodes s asked ((wired nodes).close.runFrom t).2

/-! ## Cached handles -/

/-- Every cached handle is for a pipeline that has been asked for, and its client targets the node
of that pipeline. -/
structure Aimed (nodes : DatanodeSettings) (asked : List Pipeline) (pool : Pool Client) : Prop where
  wf : pool.WF
  asked : ∀ a ∈ pool.cached, a.pipeline ∈ asked
  targets : ∀ a ∈ pool.cached, Targets nodes a.client a.pipeline

namespace Aimed

theorem empty : Aimed nodes [] ({} : Pool Client) :=
  ⟨wf_empty, List.forall_mem_nil _, List.forall_mem_nil _⟩

theorem more (h : Aimed nodes asked pool) (pipeline : Pipeline) :
    Aimed nodes (asked ++ [pipeline]) pool :=
  ⟨h.wf, fun a ha => List.mem_append_left _ (h.asked a ha), h.targets⟩

/-- Moving handles about brings none into the cache and changes neither pipelines nor clients. -/
theorem moves (h : Aimed nodes asked pool) {gone : List NetworkHandle}
    (hm : Moves pool after gone) : Aimed nodes asked after := by
  have hbefore : ∀ a ∈ after.cached, ∃ b ∈ pool.cached,
      b.pipeline = a.pipeline ∧ b.client = a.client := by
    intro a ha
    obtain ⟨b, hb, hi⟩ := List.mem_map.1 (hm.cached.subset (List.mem_map_of_mem ha))
    exact ⟨b, hb, congrArg (·.2.1) hi, congrArg (·.2.2) hi⟩
  refine ⟨h.wf.moves hm, fun a ha => ?_, fun a ha => ?_⟩
  · obtain ⟨b, hb, hp, -⟩ := hbefore a ha
    exact hp ▸ h.asked b hb
  · obtain ⟨b, hb, hp, hc⟩ := hbefore a ha
    exact hp ▸ hc ▸ h.targets b hb

theorem enrol (h : Aimed nodes asked pool) {client : Client}
    (hclient : Targets nodes client pipeline) :
    Aimed nodes (asked ++ [pipeline]) (pool.enrol pipeline client).2 := by
  refine ⟨wf_enrol pipeline client h.wf, fun a ha => ?_, fun a ha => ?_⟩
  · rcases List.mem_append.1 ha with ha | ha
    · exact List.mem_append_left _ (h.asked a (List.mem_filter.1 ha).1)
    · rw [List.mem_singleton.1 ha]
      exact List.mem_append_right _ List.mem_cons_self
  · rcases List.mem_append.1 ha with ha | ha
    · exact h.targets a (List.mem_filter.1 ha).1
    · rw [List.mem_singleton.1 ha]
      exact hclient

end Aimed

/-! ## Requests -/

theorem Acquires.aimed {outcome : Except Failure NetworkHandle}
    (ha : Acquires nodes w pipeline outcome w') (h : Aimed nodes asked w.pool) :
    Aimed nodes (asked ++ [pipeline]) w'.pool := by
  cases ha with
  | refused => exact h.more pipeline
  | reused handle _ hcurrent =>
    exact (h.moves (moves_reuse h.wf (mem_of_current? hcurrent).1)).more pipeline
  | opened client _ _ _ hopened _ hcloses =>
    rw [hcloses.pool]
    exact h.enrol hopened.base

theorem Releases.aimed {number : Nat} (hr : Releases nodes w number w')
    (h : Aimed nodes asked w.pool) : Aimed nodes asked w'.pool := by
  cases hr with
  | ignored => exact h
  | released gone pool _ hrelease hcloses =>
    rw [hcloses.pool]
    exact h.moves (moves_release h.wf hrelease)

theorem Traffic.aimed {s t : Session World} (run : Traffic nodes s asked t)
    (hempty : s.world.pool = {}) : Aimed nodes asked t.world.pool := by
  induction run with
  | start => exact hempty ▸ .empty
  | acquire _ pipeline containerId ih =>
    exact (turns_acquire pipeline containerId _ rfl).2.aimed ih
  | release _ handle ih => exact (turns_release handle _ rfl).2.aimed ih
  | close _ ih =>
    rw [(turns_close _ rfl).2.pool]
    exact ih.moves (moves_clear _)

/-- The node that requests go to is known from the leader or, if there is none, the first member. -/
theorem baseFor_of_leader {p q : Pipeline} (hleader : q.leader = p.leader)
    (h : p.leader ≠ "" ∨ q.members.head? = p.members.head?) :
    baseFor nodes q = baseFor nodes p := by
  have htarget : q.target? = p.target? := by
    unfold Pipeline.target?
    rw [hleader]
    rcases h with h | h
    · rw [if_pos h, if_pos h]
    · cases hp : p.members with
      | nil =>
        rw [hp, List.head?_nil] at h
        rw [List.head?_eq_none_iff.1 h]
      | cons m r =>
        rw [hp, List.head?_cons] at h
        obtain ⟨r', hq⟩ := List.head?_eq_some_iff.1 h
        rw [hq]
  unfold baseFor targetUrl
  rw [htarget]

/-- **Which node a handle is for.** Whatever handles have been acquired and released, and however
many may be kept idle: a handle that is acquired for a pipeline is for that pipeline or for one that
a handle has been asked for before, with the same key and the same leader, and its client targets
the node of that one. So it targets the node of the pipeline itself whenever the pipeline has a
leader or the two have the same first member, and only if a client that is opened for the one has
the same base as a client that is opened for the other. -/
theorem Traffic.targets_iff {s t u : Session World} (hempty : s.world.pool = {})
    (run : Traffic nodes s asked t) {containerId : Int} {a : NetworkHandle}
    (hacquired : ((wired nodes).acquire pipeline containerId).runFrom t = (.ok a, u)) :
    (a.pipeline = pipeline ∨ a.pipeline ∈ asked) ∧ a.pipeline.key = pipeline.key ∧
      a.pipeline.leader = pipeline.leader ∧ Targets nodes a.client a.pipeline ∧
      (pipeline.leader ≠ "" ∨ a.pipeline.members.head? = pipeline.members.head? →
        Targets nodes a.client pipeline) ∧
      (Targets nodes a.client pipeline ↔ baseFor nodes pipeline = baseFor nodes a.pipeline) := by
  have haimed := run.aimed hempty
  have hturn : Acquires nodes t.world pipeline _ _ := (turns_acquire pipeline containerId t rfl).2
  rw [hacquired] at hturn
  obtain ⟨hcached, hkey, hleader, hwhich⟩ := hturn.given
  have htargets : Targets nodes a.client a.pipeline := (hturn.aimed haimed).targets a hcached
  refine ⟨?_, hkey, hleader, htargets, fun h => ?_, fun h => h.trans htargets.symm,
    fun h => h.trans htargets⟩
  · rcases hwhich with h | ⟨b, hb, hp⟩
    · exact .inl h
    · exact .inr (hp ▸ haimed.asked b hb)
  · exact (baseFor_of_leader hleader h).symm.trans htargets

/-- What is acquired in a session, if it is, has a client whose base spells a URL. -/
theorem exists_acquired {s : Session World} {containerId : Int} {url : String}
    (h : (((wired nodes).acquire pipeline containerId).runFrom s).1.toOption.map
      (fun a => a.client.baseText) = some url) :
    ∃ a u, ((wired nodes).acquire pipeline containerId).runFrom s = (.ok a, u) ∧
      a.client.baseText = url := by
  generalize ((wired nodes).acquire pipeline containerId).runFrom s = r at h ⊢
  rcases r with ⟨f | a, u⟩
  · cases h
  · exact ⟨a, u, rfl, Option.some.inj h⟩

/-- A pipeline changes its leader while a handle for it is in use. -/
theorem Traffic.targets_iff_leaders :
    let nodes : DatanodeSettings := {}
    let s : Session World := { world := { traceOf := fun _ => "" } }
    let pipeline : Pipeline :=
      ⟨some "p1", ["n1:9859", "n2:9859"], "n1:9859", .opened, .standAlone, .one, by decide⟩
    let moved : Pipeline :=
      ⟨some "p1", ["n1:9859", "n2:9859"], "n2:9859", .opened, .standAlone, .one, by decide⟩
    let t := (((wired nodes).acquire pipeline 1).runFrom s).2
    s.world.pool = {} ∧ Traffic nodes s [pipeline] t ∧ ∃ a u,
      ((wired nodes).acquire moved 2).runFrom t = (.ok a, u) ∧
        a.client.baseText = "http://n2:9859" ∧ Targets nodes a.client moved := by
  intro nodes s pipeline moved t
  have run : Traffic nodes s [pipeline] t := .acquire .start pipeline 1
  obtain ⟨a, u, hacquired, hbase⟩ : ∃ a u,
      ((wired nodes).acquire moved 2).runFrom t = (.ok a, u) ∧
        a.client.baseText = "http://n2:9859" := exists_acquired (by decide +kernel)
  have htargets := Traffic.targets_iff (s := s) rfl run hacquired
  exact ⟨rfl, run, a, u, hacquired, hbase, htargets.2.2.2.2.1 (.inl (by decide))⟩

/-- Two pipelines without a leader share a name: the second gets the handle of the first, whose
client targets another node than a client would that is opened for the second. -/
theorem Traffic.not_targets_leaderless :
    let nodes : DatanodeSettings := {}
    let s : Session World := { world := { traceOf := fun _ => "" } }
    let first : Pipeline := ⟨some "p1", ["n1:9859"], "", .allocated, .standAlone, .one, by decide⟩
    let second : Pipeline := ⟨some "p1", ["n2:9859"], "", .allocated, .standAlone, .one, by decide⟩
    let t := (((wired nodes).acquire first 1).runFrom s).2
    s.world.pool = {} ∧ Traffic nodes s [first] t ∧ second.key ≠ "" ∧
      second.target? = some "n2:9859" ∧
      (∃ a u, ((wired nodes).acquire second 2).runFrom s = (.ok a, u) ∧
        a.client.baseText = "http://n2:9859") ∧
      ∃ a u, ((wired nodes).acquire second 2).runFrom t = (.ok a, u) ∧
        a.client.baseText = "http://n1:9859" ∧ ¬ Targets nodes a.client second := by
  intro nodes s first second t
  obtain ⟨a, u, hacquired, hbase⟩ : ∃ a u,
      ((wired nodes).acquire second 2).runFrom t = (.ok a, u) ∧
        a.client.baseText = "http://n1:9859" := exists_acquired (by decide +kernel)
  have hown : (baseFor nodes second).toOption.map Url.text = some "http://n2:9859" := by
    decide +kernel
  refine ⟨rfl, .acquire .start first 1, by decide, by decide, exists_acquired (by decide +kernel),
    a, u, hacquired, hbase, fun htargets => ?_⟩
  have hsame := htargets.baseText
  rw [hown, hbase] at hsame
  exact absurd (Option.some.inj hsame) (by decide)

end Stowage.Pool
