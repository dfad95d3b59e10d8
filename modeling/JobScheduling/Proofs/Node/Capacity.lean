import JobScheduling.Proofs.Node.Matches
import JobScheduling.Proofs.Node.Pass
import JobScheduling.Proofs.Pool.Placed

/-!
# `JobScheduling.Proofs.Node.Capacity`: how many jobs a node holds

A clustered node holds no more jobs than it has workers: nothing but a claim adds to them, and
a claim stops at the limit. So says `Node.Fit`, which every node keeps. `Node.Staffed` adds for
a clustered node that its pool has lost no worker and has each open ticket in its place, and
`Node.Prompt` that no job is left in the backlog, as it is between two steps.

All but the taking on of jobs is covered by `Node.Lasts`: a property that is not lost when
tickets are cancelled, jobs are let go and a purge is left to the workers is kept by every
request, and by a pass up to its claim (`Node.prepare`). The taking on of jobs is an induction
over the jobs (`claim_induction`).

* `fit_claim`: a claim leaves a node fit.
* `staffed_claim`: the jobs that a prompt node claims are in their places.
-/

set_option autoImplicit false

namespace JobScheduling

namespace Node

open Act

/-- A property that a node does not lose when tickets are cancelled, jobs are let go and a purge
is left to the workers. -/
structure Lasts (P : Node → Prop) : Prop where
  cancelTicket : ∀ n id, P n → P (n.cancelTicket id)
  drop : ∀ n id, P n → P (n.drop id)
  schedulePurge : ∀ n, P n → P n.schedulePurge

section
variable {P : Node → Prop} (scan : Registry.Scan) (now : Nat) {site : Site Registry}

/-- The calls on the shared queue leave the node alone. -/
theorem Lasts.preserves (h : Lasts P) : Preserves scan now fun s => P s.node where
  serve _ _ _ hs := hs
  cancelTicket id s := h.cancelTicket s.node id
  drop id s := h.drop s.node id
  schedulePurge s := h.schedulePurge s.node

/-- The part of a pass before its claim. -/
theorem Lasts.prepare (h : Lasts P) (heldScan : Registry.Scan) (site : Site Registry)
    (hP : P site.node) :
    P ((Node.prepare (Registry.service scan now) heldScan now).run site).2.node := by
  have hrespects := (h.preserves scan now).respects
  have hclear : Matches (fun s s' => s = s' ∧ P s.node) (clearShared (Registry.service scan now))
      (clearShared (Registry.service scan now)) := by
    -- What comes before the claims is the review of the held jobs and of the records.
    refine matches_bind (matches_node hrespects.node) fun n => ?_
    refine matches_bind (hrespects.cancelOverdue _ _ _) fun _ => ?_
    refine matches_bind hrespects.toCancel fun requested => ?_
    exact matches_forEach hrespects.matches_stopRequested requested
  exact keeps_of_matches
    (P := fun s => P s.node)
    (matches_bind (hrespects.matches_reviewHeld heldScan now) fun _ => hclear) hP

/-- A request to cancel keeps what lasts. -/
theorem Lasts.cancel (h : Lasts P) (id : String) (credential : Option String) (hP : P site.node) :
    P ((Node.cancel (Registry.service scan now) id credential).run site).2.node :=
  (h.preserves scan now).cancel id credential hP

/-- The review of the held jobs. -/
theorem Lasts.reviewHeld (h : Lasts P) (heldScan : Registry.Scan) (hP : P site.node) :
    P ((Node.reviewHeld (Registry.service scan now) heldScan now).run site).2.node :=
  keeps_of_matches (P := fun s => P s.node)
    ((h.preserves scan now).respects.matches_reviewHeld heldScan now) hP

end

/-! ### Taking on jobs -/

/-- What one job that is taken on does, counted over a list of jobs. A refusal ends the list. -/
theorem forEach_hold_induction {P : Nat → Node → Prop}
    (htake : ∀ i n job ticket pool, P i n → n.pool.submit job = .ok (ticket, pool) →
      P (i + 1) { n with pool, held := n.held.insert job.id ticket })
    (jobs : List Job) (site : Site Registry) {i : Nat} (h : P i site.node) :
    ∃ j ≤ i + jobs.length, P j ((forEach (hold (σ := Registry)) jobs).run site).2.node := by
  -- By induction on the jobs, up to the one that the pool refuses.
  induction jobs generalizing site i with
  | nil => exact ⟨i, Nat.le_refl _, h⟩
  | cons job jobs ih =>
    have hrun := run_hold job site
    cases htaken : site.node.take job with
    | error e =>
      rw [htaken] at hrun
      refine ⟨i, Nat.le_add_right .., ?_⟩
      simp only [forEach]
      rw [run_bind, hrun]
      exact h
    | ok n =>
      rw [htaken] at hrun
      obtain ⟨ticket, pool, hsubmit, rfl⟩ := take_eq_ok htaken
      rw [run_forEach_cons hrun, List.length_cons]
      obtain ⟨j, hj, hP⟩ := @ih { site with node := { site.node with
        pool, held := site.node.held.insert job.id ticket } } (i + 1) (htake i _ _ _ _ h hsubmit)
      exact ⟨j, by omega, hP⟩

/-- A claim takes on no more jobs than the node lacks to its limit. -/
theorem claim_induction {P : Nat → Node → Prop}
    (htake : ∀ i n job ticket pool, P i n → n.pool.submit job = .ok (ticket, pool) →
      P (i + 1) { n with pool, held := n.held.insert job.id ticket })
    (scan : Registry.Scan) (now : Nat) {site : Site Registry} (h : P 0 site.node) :
    ∃ j ≤ site.node.settings.maxRunning - site.node.held.size,
      P j ((claim (Registry.service scan now)).run site).2.node := by
  simp only [claim]
  rw [run_bind_ok (run_node site)]
  split
  case isFalse => exact ⟨0, Nat.zero_le _, h⟩
  case isTrue =>
    generalize site.node.settings.maxRunning - site.node.held.size = free
    -- No more jobs are claimed than there are free workers.
    have hfew : ((site.queue.startNext now free).1.map (·.job)).length ≤ free := by
      rw [List.length_map, Registry.startNext_fst]
      refine Nat.le_trans (List.length_filterMap_le ..) ?_
      exact List.length_take_le ..
    rw [run_bind_ok (Registry.run_startNext scan now site free), forEach_map]
    obtain ⟨j, hj, hP⟩ := forEach_hold_induction htake
      ((site.queue.startNext now free).1.map (·.job))
      { site with queue := (site.queue.startNext now free).2 } h
    exact ⟨j, by omega, hP⟩

/-- What every node has lasts. -/
theorem lasts_whole : Lasts Whole where
  cancelTicket n id h := by
    unfold cancelTicket
    split
    · exact h
    next m _ => exact h.cancel m
  drop _ id h := h.drop id
  schedulePurge n h := by
    have htidied := tidied_schedulePurge n
    exact h.of_follows htidied.held
      (htidied.isShutDown.trans (h.stopped.trans htidied.poolIsShutDown.symm))
      (htidied.sound h.sound) (Pool.Closes.of_eq htidied.tickets).follows

/-! ### Nodes that are fit -/

/-- What every node has, clustered or not, that takes on jobs as it should. -/
structure Fit (n : Node) : Prop extends n.Whole where
  /-- A clustered node holds no more jobs than it has workers. -/
  within : n.settings.clustered = true → n.held.size ≤ n.settings.maxRunning

section
variable {n n' : Node}

/-- A new node holds nothing. -/
theorem fit_of_new {settings : Settings} {retention : Option Nat} {priority : Priority}
    {work : Option (Job → Work)} (h : Node.new settings retention priority work = .ok n) :
    n.Fit := by
  refine ⟨whole_of_new h, fun _ => ?_⟩
  obtain ⟨-, -, hheld, -⟩ := new_eq_ok h
  rw [hheld]
  exact Nat.zero_le _

/-- A change that adds nothing to the held jobs. -/
theorem Fit.of_whole (h : n.Fit) (hwhole : n'.Whole) (hsettings : n'.settings = n.settings)
    (hsize : n'.held.size ≤ n.held.size) : n'.Fit := by
  refine ⟨hwhole, fun hclustered => ?_⟩
  rw [hsettings] at hclustered ⊢
  exact hsize.trans (h.within hclustered)

/-- The stop of a node lets go of nothing. -/
theorem Fit.of_halted (h : n.Fit) (hhalted : n.Halted n') : n'.Fit :=
  h.of_whole (hhalted.whole h.toWhole) hhalted.settings
    (Nat.le_of_eq (congrArg Table.size hhalted.held))

/-- A node that only lets go of jobs stays fit. -/
theorem lasts_fit : Lasts Fit where
  cancelTicket n id h := by
    refine h.of_whole (lasts_whole.cancelTicket n id h.toWhole) ?_ ?_ <;> unfold cancelTicket
    · split <;> rfl
    · split <;> exact Nat.le_refl _
  drop n id h := h.of_whole (h.toWhole.drop id) rfl (Table.size_erase_le ..)
  schedulePurge n h :=
    have htidied := tidied_schedulePurge n
    h.of_whole (lasts_whole.schedulePurge n h.toWhole) htidied.settings
      (Nat.le_of_eq (congrArg Table.size htidied.held))

/-- A claim leaves a node fit: it stops at the limit. -/
theorem fit_claim (scan : Registry.Scan) (now : Nat) {site : Site Registry} (h : site.node.Fit) :
    ((claim (Registry.service scan now)).run site).2.node.Fit := by
  obtain ⟨j, hj, hsettings, hwhole, hsize⟩ := claim_induction
    (P := fun i n => n.settings = site.node.settings ∧ n.Whole ∧
      n.held.size ≤ site.node.held.size + i)
    (fun i n job ticket pool ⟨hsettings, hwhole, hsize⟩ hsubmit =>
      ⟨hsettings, hwhole.take hsubmit,
        (Table.size_insert_le ..).trans (Nat.succ_le_succ hsize)⟩)
    scan now ⟨rfl, h.toWhole, Nat.le_refl _⟩
  refine ⟨hwhole, fun hclustered => ?_⟩
  rw [hsettings] at hclustered ⊢
  have hwithin := h.within hclustered
  omega

/-! ### Nodes that are staffed -/

/-- A clustered node with a worker for each job that it may hold, none of them lost. -/
structure Staffed (n : Node) : Prop extends n.Fit where
  clustered : n.settings.clustered = true
  workers : n.pool.settings.workers = n.settings.maxRunning
  noneLost : n.pool.lost = 0
  placed : n.pool.Placed

/-- A staffed node that has no job in its backlog. -/
structure Prompt (n : Node) : Prop extends n.Staffed where
  jobs : n.pool.backlog.jobs = []

/-- A new clustered node has nothing in its backlog. -/
theorem prompt_of_new {settings : Settings} {retention : Option Nat} {priority : Priority}
    {work : Option (Job → Work)} (h : Node.new settings retention priority work = .ok n)
    (hclustered : settings.clustered = true) : n.Prompt := by
  have hfit := fit_of_new h
  obtain ⟨-, work, pool, hpool, rfl⟩ := exists_of_new h
  obtain ⟨hplaced, hjobs, hlost, hsettings⟩ := Pool.placed_of_new hpool
  exact ⟨⟨hfit, hclustered, congrArg PoolSettings.workers hsettings, hlost, hplaced⟩, hjobs⟩

/-- A change that leaves the settings and the workers alone. -/
theorem Staffed.of_fit (h : n.Staffed) (hfit : n'.Fit) (hsettings : n'.settings = n.settings)
    (hworkers : n'.pool.lost = n.pool.lost ∧ n'.pool.settings = n.pool.settings)
    (hplaced : n'.pool.Placed) : n'.Staffed where
  toFit := hfit
  clustered := hsettings ▸ h.clustered
  workers := by rw [hworkers.2, hsettings, h.workers]
  noneLost := hworkers.1.trans h.noneLost
  placed := hplaced

/-- Nothing but taking on a job puts one into the backlog. -/
theorem lasts_prompt : Lasts Prompt where
  -- A cancellation finds no job in the backlog, and a purge leaves none there.
  cancelTicket n id h := by
    have hfit := lasts_fit.cancelTicket n id h.toFit
    unfold cancelTicket at hfit ⊢
    split
    · exact h
    next m hm =>
      rw [hm] at hfit
      obtain ⟨hplaced, hjobs⟩ := Pool.placed_cancel h.placed h.jobs m
      exact ⟨h.toStaffed.of_fit hfit rfl (Pool.constants_cancel m _) hplaced, hjobs⟩
  drop n id h := ⟨h.toStaffed.of_fit (lasts_fit.drop n id h.toFit) rfl ⟨rfl, rfl⟩ h.placed, h.jobs⟩
  schedulePurge n h := by
    have hfit := lasts_fit.schedulePurge n h.toFit
    unfold schedulePurge at hfit ⊢
    split
    next pool hpool =>
      rw [hpool] at hfit
      obtain ⟨hplaced, hjobs⟩ := Pool.placed_schedulePurge h.placed hpool
      exact ⟨h.toStaffed.of_fit hfit rfl (Pool.constants_schedulePurge hpool) hplaced,
        hjobs.trans h.jobs⟩
    · exact h

/-- The stop of a node empties its backlog. -/
theorem Prompt.shutDown (h : n.Prompt) : n.shutDown.Prompt := by
  have hfit : n.shutDown.Fit := h.toFit.of_halted n.halted_shutDown
  unfold Node.shutDown at hfit ⊢
  split
  · exact h
  next hdown =>
    rw [if_neg hdown] at hfit
    obtain ⟨hplaced, hjobs⟩ := Pool.placed_shutDown h.placed h.jobs
    exact ⟨h.toStaffed.of_fit hfit rfl (Pool.constants_shutDown _) hplaced, hjobs⟩

/-- When a node is stopped with all its work, its workers are freed. -/
theorem Prompt.stop (h : n.Prompt) (lastly : Job → WorkEnd) : (n.stop lastly).Prompt := by
  have hfit : (n.stop lastly).Fit := h.toFit.of_halted (n.halted_stop lastly)
  have hplaced := Pool.placed_endAll h.shutDown.placed lastly
  exact ⟨h.shutDown.toStaffed.of_fit hfit rfl (Pool.constants_endAll lastly _) hplaced,
    (congrArg Backlog.jobs (Pool.backlog_endAll lastly _)).trans h.shutDown.jobs⟩

/-- Work that is ended frees its worker. -/
theorem Prompt.endWork (h : n.Prompt) {m : Nat} (hm : m ∈ n.pool.busy) (how : WorkEnd) :
    Prompt { n with pool := n.pool.endWork m how } :=
  ⟨h.toStaffed.of_fit (h.toFit.of_whole (h.toWhole.endWork hm how) rfl (Nat.le_refl _)) rfl
    ⟨rfl, rfl⟩ (Pool.placed_endWork h.placed hm how), h.jobs⟩

/-- The jobs that a prompt node claims are in their places. -/
theorem staffed_claim (scan : Registry.Scan) (now : Nat) {site : Site Registry}
    (h : site.node.Staffed) : ((claim (Registry.service scan now)).run site).2.node.Staffed := by
  have hfit := fit_claim scan now h.toFit
  -- Each claimed job is submitted to the pool; the submission keeps all this.
  obtain ⟨j, -, hsettings, -, hworkers, hplaced⟩ := claim_induction
    (P := fun _ n => n.settings = site.node.settings ∧ n.pool.Sound ∧
      (n.pool.lost = site.node.pool.lost ∧ n.pool.settings = site.node.pool.settings) ∧
      n.pool.Placed)
    (fun i n job ticket pool ⟨hsettings, hsound, ⟨hlost, hpool⟩, hplaced⟩ hsubmit =>
      have hsame := Pool.constants_submit hsubmit
      ⟨hsettings, Pool.sound_submit hsound hsubmit,
        ⟨hsame.1.trans hlost, hsame.2.trans hpool⟩, Pool.placed_submit hplaced hsound hsubmit⟩)
    scan now ⟨rfl, h.sound, ⟨rfl, rfl⟩, h.placed⟩
  exact h.of_fit hfit hsettings hworkers hplaced

end

end Node

end JobScheduling
