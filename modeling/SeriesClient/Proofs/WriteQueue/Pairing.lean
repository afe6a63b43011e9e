import SeriesClient.Proofs.WriteQueue.Failing
import SeriesClient.Proofs.WriteQueue.Retrying
import SeriesClient.WriteQueue.Service

set_option relaxedAutoImplicit false
set_option autoImplicit false

/-!
# Which cookie a point is confirmed with

Points are added with cookies, but not necessarily with as many as there are points. The points of
several calls and their cookies are gathered side by side, and a point is confirmed with the cookie
that stands at its place among all cookies gathered by then. This is its own cookie if each call
gave one cookie for each point, or none at all. Otherwise cookies move over to the points of later
calls, and points for which no cookie is left are not confirmed.

## Main definitions

* `SeriesClient.Submission` — a call that adds points.
* `SeriesClient.Submission.own` — points with the cookies that were given for them.
* `SeriesClient.gather` — the points and cookies of several calls, side by side.
* `SeriesClient.SharedQueue.Submits` — the runs with the calls that add points.
* `SeriesClient.Grouped` — which calls the chunks come from.

## Main results

* `SeriesClient.SharedQueue.Submits.pairs` — which cookie each point is confirmed with.
* `SeriesClient.SharedQueue.not_own_misfittingCalls` — a cookie that crosses from one call to
  another.
* `SeriesClient.QueueService.appendAll_of_open` — what a call adds.

## Design

All writes succeed, so that chunks are neither tried again nor dropped. Cookies are of any type,
with one that stands for no cookie.
-/

namespace SeriesClient

variable {ω δ α κ : Type}

/-! ## Slices -/

/-- The points and cookies of a chunk. -/
def Chunk.lot (c : Chunk δ α κ) : Lot α κ := ⟨c.points, c.cookies⟩

/-- What the chunks of a lot hold, whatever its database. -/
def Lot.slices (size : Nat) (l : Lot α κ) : List (Lot α κ) := (l.chunks () size).map Chunk.lot

/-- The database does not matter for where a lot is cut. -/
lemma Lot.map_lot_cut {δ' : Type} (database : δ) (database' : δ') (size bound : Nat)
    (points : List α) (cookies : List κ) :
    (cut database size bound points cookies).map Chunk.lot =
      (cut database' size bound points cookies).map Chunk.lot := by
  induction bound generalizing points cookies with
  | zero => rfl
  | succ bound ih =>
    cases points with
    | nil => rfl
    | cons p points =>
      rw [cut, cut, List.map_cons, List.map_cons, ih]
      rfl

/-- **The slices of a lot hold its items in order.** -/
lemma Lot.items_slices {size : Nat} (pos : 0 < size) (l : Lot α κ) :
    (l.slices size).flatMap Lot.items = l.items := by
  rw [slices, List.flatMap_map]
  exact l.items_chunks () pos

/-- If there is a cookie for each point of a lot, there is one for each point of its slices. -/
lemma Lot.length_cookies_of_mem_slices {size : Nat} (pos : 0 < size) {l slice : Lot α κ}
    (hl : l.cookies.length = l.points.length) (h : slice ∈ l.slices size) :
    slice.cookies.length = slice.points.length := by
  obtain ⟨c, hc, rfl⟩ := List.mem_map.1 h
  exact (isSized_of_mem_cut pos hl hc).1.paired

section Databases

variable [BEq δ] (k : δ)

/-- The points and cookies of the chunks of a database. -/
def lotsFor (chunks : List (Chunk δ α κ)) : List (Lot α κ) :=
  (chunks.filter (·.database == k)).map Chunk.lot

/-- The chunks of two lists are those of each. -/
lemma lotsFor_append (cs ds : List (Chunk δ α κ)) :
    lotsFor k (cs ++ ds) = lotsFor k cs ++ lotsFor k ds := by
  simp [lotsFor]

/-- What some chunks hold for a database is in their points and cookies. -/
lemma flatMap_items_lotsFor (chunks : List (Chunk δ α κ)) :
    (lotsFor k chunks).flatMap Lot.items = itemsFor k chunks := by
  rw [lotsFor, List.flatMap_map]
  rfl

/-- The chunks of a lot are its slices for the database of the lot, and nothing for another. -/
lemma lotsFor_chunks (l : Lot α κ) (database : δ) (size : Nat) :
    lotsFor k (l.chunks database size) = if database == k then l.slices size else [] := by
  have hdatabase : ∀ c ∈ l.chunks database size, c.database = database := fun c hc =>
    Lot.database_of_mem_cut hc
  by_cases h : (database == k) = true
  · have hall : (l.chunks database size).filter (·.database == k) = l.chunks database size :=
      List.filter_eq_self.2 fun c hc => by rw [hdatabase c hc, h]
    rw [lotsFor, hall, if_pos h]
    exact Lot.map_lot_cut database () size _ l.points l.cookies
  · have hnone : (l.chunks database size).filter (·.database == k) = [] :=
      List.filter_eq_nil_iff.2 fun c hc => by
        rw [hdatabase c hc]
        exact h
    rw [lotsFor, hnone, if_neg h]
    rfl

namespace WriteQueue

/-- The points and cookies that wait for a database. -/
def lotFor (q : WriteQueue δ α κ) : Lot α κ := (q.queued.find? k).getD .empty

variable [PartialEquivBEq δ]

/-- The chunks of all lots are the slices of what waits. -/
lemma lotsFor_queued {q : WriteQueue δ α κ} (h : q.queued.DistinctKeys) (size : Nat) :
    lotsFor k (q.queued.entries.flatMap fun (database, lot) => lot.chunks database size) =
      (q.lotFor k).slices size := by
  have hslices : (q.lotFor k).slices size = ((q.queued.find? k).map (Lot.slices size)).getD [] := by
    rw [lotFor]
    cases q.queued.find? k <;> rfl
  rw [hslices, ← OrderedMap.flatMap_entries h (Lot.slices size) k]
  generalize q.queued.entries = entries
  induction entries with
  | nil => rfl
  | cons e rest ih =>
    rw [List.flatMap_cons, List.flatMap_cons, lotsFor_append, ih, lotsFor_chunks]

/-- Storing adds to what waits for its database. -/
lemma lotFor_store (q : WriteQueue δ α κ) (database : δ) (points : List α) (cookies : List κ) :
    (q.store database points cookies).lotFor k =
      if database == k then (q.lotFor k).add points cookies else q.lotFor k := by
  simp only [lotFor, store, OrderedMap.find?_insert]
  by_cases hk : (database == k) = true
  · rw [if_pos hk, if_pos hk, OrderedMap.find?_congr q.queued hk]
    rfl
  · rw [if_neg hk, if_neg hk]

end WriteQueue

end Databases

/-! ## Calls -/

/-- A call that adds points of a database, with a list of cookies or without one. -/
structure Submission (δ α κ : Type) where
  /-- The database. -/
  database : δ
  /-- The points. -/
  points : List α
  /-- The cookies, if the call gives any. -/
  cookies? : Option (List κ)

namespace Submission

/-- The cookies that are stored: those given, or else one for each point that stands for none. -/
def cookies (absent : κ) (x : Submission δ α κ) : List κ :=
  x.cookies?.getD (List.replicate x.points.length absent)

/-- The points with the cookies that the call gave at their places. -/
def own (absent : κ) (x : Submission δ α κ) : List (α × κ) :=
  x.points.mapIdx fun i p => (p, (x.cookies absent)[i]?.getD absent)

/-- A call that gives no cookies, or one for each point. -/
def Fits (x : Submission δ α κ) : Prop :=
  ∀ cookies, x.cookies? = some cookies → cookies.length = x.points.length

variable {absent : κ} {x : Submission δ α κ}

/-- A call that gives no cookies, or one for each point, has one stored for each point. -/
lemma Fits.length_cookies (h : x.Fits) : (x.cookies absent).length = x.points.length := by
  unfold cookies
  rcases hx : x.cookies? with _ | cookies
  · exact List.length_replicate
  · exact h cookies hx

/-- With one cookie for each point, points and cookies belong together place by place. -/
lemma Fits.zip_cookies (h : x.Fits) : x.points.zip (x.cookies absent) = x.own absent := by
  refine List.ext_getElem ?_ fun i hi _ => ?_
  · simp [own, h.length_cookies]
  · have hcookie : i < (x.cookies absent).length := by
      simp only [List.length_zip] at hi
      omega
    simp [own, hcookie]

end Submission

section Gathering

variable (absent : κ)

/-- The points and cookies of several calls, side by side. -/
def gather (group : List (Submission δ α κ)) : Lot α κ :=
  ⟨group.flatMap Submission.points, group.flatMap (Submission.cookies absent)⟩

/-- One more call adds its points and cookies. -/
lemma gather_append_singleton (group : List (Submission δ α κ)) (x : Submission δ α κ) :
    gather absent (group ++ [x]) = (gather absent group).add x.points (x.cookies absent) := by
  simp [gather, Lot.add]

variable {absent}

/-- Calls that give no cookies, or one for each point, leave a cookie for each point. -/
lemma length_cookies_gather {group : List (Submission δ α κ)} (h : ∀ x ∈ group, x.Fits) :
    (gather absent group).cookies.length = (gather absent group).points.length := by
  induction group with
  | nil => rfl
  | cons x group ih =>
    have hx : (x.cookies absent).length = x.points.length :=
      (h x List.mem_cons_self).length_cookies
    have hgroup := ih fun y hy => h y (List.mem_cons_of_mem x hy)
    simp only [gather, List.flatMap_cons, List.length_append] at hgroup ⊢
    rw [hx, hgroup]

/-- **Calls that give no cookies, or one for each point, have their own cookies.** -/
lemma items_gather {group : List (Submission δ α κ)} (h : ∀ x ∈ group, x.Fits) :
    (gather absent group).items = group.flatMap (Submission.own absent) := by
  induction group with
  | nil => rfl
  | cons x group ih =>
    have hx := h x List.mem_cons_self
    have hgroup := ih fun y hy => h y (List.mem_cons_of_mem x hy)
    rw [List.flatMap_cons, ← hgroup, ← hx.zip_cookies, Lot.items, Lot.items, gather, gather,
      List.flatMap_cons, List.flatMap_cons, List.zip_append hx.length_cookies.symm]

end Gathering

/-! ## Where the calls are -/

section Groups

variable [BEq δ]

/-- The calls that add points of a database. -/
def submissionsFor (k : δ) (submitted : List (Submission δ α κ)) : List (Submission δ α κ) :=
  submitted.filter (·.database == k)

/-- Which calls the chunks come from, in a run in which every write succeeds. -/
structure Grouped (absent : κ) (size : Nat) (submitted : List (Submission δ α κ))
    (q : WriteQueue δ α κ) (records : List (OutletRecord δ α κ))
    (finished held : List (Chunk δ α κ)) (told : List (OutletRecord δ α κ)) : Prop where
  /-- The greatest number of points in a chunk. -/
  size_eq : ChunkSize.ofValue q.settings.batchSize = .atMost size
  /-- The writer holds the chunks. -/
  holding : Holding q.phase held told
  /-- No chunk is tried again. -/
  unpaused : ∀ retries c fault rest, q.phase ≠ .pausing retries c fault rest
  /-- The outlet was told that each finished chunk was written and that each of its points that has
  a cookie was confirmed with it, then of the chunk in progress, and of nothing else. -/
  records_eq : records =
    finished.flatMap (fun c => (ChunkOutcome.delivered c).records) ++ told
  /-- Each database has one lot. -/
  distinct : q.queued.DistinctKeys
  /-- The calls for a database fall into groups. Points and cookies of a group were gathered side by
  side, and both were cut into chunks at the same places; those of the last group wait. -/
  groups : ∀ k, ∃ taken : List (List (Submission δ α κ)), ∃ waiting,
    submissionsFor k submitted = taken.flatten ++ waiting ∧
      lotsFor k (finished ++ held) =
        taken.flatMap (fun group => (gather absent group).slices size) ∧
      q.lotFor k = gather absent waiting

end Groups

/-- Before some chunks, no chunk is tried again. -/
lemma WriterPhase.ofChunks_ne_pausing (chunks : List (Chunk δ α κ)) (retries : Nat)
    (c : Chunk δ α κ) (fault : Fault) (rest : List (Chunk δ α κ)) :
    ofChunks chunks ≠ .pausing retries c fault rest := by
  cases chunks <;> nofun

namespace WriteQueue

variable {o : Outlet ω δ α κ} {q : WriteQueue δ α κ}

/-- **What a writer does with the chunk in hand** if every write succeeds: it tells the outlet more
of it, or goes on with the rest once all of its points that have a cookie are confirmed. -/
lemma exists_delivery (ho : o.CallbacksReturn)
    (hwrites : ∀ database points w, (o.write database points w).1 = .ok ())
    {w : Recorded ω (OutletRecord δ α κ)} {held : List (Chunk δ α κ)}
    {told : List (OutletRecord δ α κ)} (h : Holding q.phase held told) (hidle : q.phase ≠ .idle)
    (hend : q.phase ≠ .finished)
    (hunpaused : ∀ retries c fault rest, q.phase ≠ .pausing retries c fault rest) :
    (∃ left rest world more, q.step o.recorded w =
      ({ q with phase := .confirming left rest }, ⟨world, w.records ++ more⟩) ∧
        Holding (.confirming left rest) held (told ++ more)) ∨
    ∃ c rest, q.step o.recorded w = ({ q with phase := .ofChunks rest }, w) ∧ held = c :: rest ∧
      told = (ChunkOutcome.delivered c).records := by
  cases hphase : q.phase with
  | idle => exact absurd hphase hidle
  | finished => exact absurd hphase hend
  | pausing retries c fault rest => exact absurd hphase (hunpaused retries c fault rest)
  | failed =>
    rw [hphase] at h
    cases h
  | attempting retries c rest =>
    rw [hphase] at h
    cases h
    have hwrite := hwrites c.database c.points w.world
    rcases hresult : o.write c.database c.points w.world with ⟨result, world⟩
    obtain rfl : result = .ok () := by rw [← hwrite, hresult]
    refine .inl ⟨c.items, rest, world, [.written c.database c.points], ?_,
      .confirming c rest (List.nil_append _).symm⟩
    simp only [step, hphase, attempt, Outlet.recorded, hresult]
    rfl
  | confirming left rest =>
    rw [hphase] at h
    cases h with
    | @confirming c _ done _ hitems =>
      cases left with
      | nil =>
        have hdone : c.items = done := by simpa using hitems
        refine .inr ⟨c, rest, ?_, rfl, ?_⟩
        · simp only [step, hphase]
        · rw [ChunkOutcome.records, hdone]
      | cons i left =>
        obtain ⟨world, hconfirm⟩ := exists_confirm ho w hphase
        have hsplit : c.items = (done ++ [i]) ++ left := by simpa using hitems
        refine .inl ⟨left, rest, world, _, hconfirm, ?_⟩
        simpa using Holding.confirming c rest hsplit

end WriteQueue

namespace Grouped

variable [BEq δ] {absent : κ} {size : Nat} {submitted : List (Submission δ α κ)}
  {q : WriteQueue δ α κ} {records : List (OutletRecord δ α κ)} {c : Chunk δ α κ}
  {finished held rest : List (Chunk δ α κ)} {told : List (OutletRecord δ α κ)}

/-- The writer goes on with the chunk in progress: the outlet is told more of it. -/
lemma goOn (h : Grouped absent size submitted q records finished held told)
    {left : List (α × κ)} (more : List (OutletRecord δ α κ))
    (hholding : Holding (.confirming left rest) held (told ++ more)) :
    Grouped absent size submitted { q with phase := .confirming left rest } (records ++ more)
      finished held (told ++ more) :=
  ⟨h.size_eq, hholding, nofun, by rw [h.records_eq, List.append_assoc], h.distinct, h.groups⟩

/-- The writer finishes the chunk in progress, and goes on with the rest. -/
lemma finish (h : Grouped absent size submitted q records finished (c :: rest)
    (ChunkOutcome.delivered c).records) :
    Grouped absent size submitted { q with phase := .ofChunks rest } records (finished ++ [c]) rest
      [] := by
  refine ⟨h.size_eq, .ofChunks rest, WriterPhase.ofChunks_ne_pausing rest, ?_, h.distinct,
    fun k => ?_⟩
  · rw [h.records_eq, List.flatMap_append, List.flatMap_singleton, List.append_nil]
  · obtain ⟨taken, waiting, hsplit, hlots, hwaiting⟩ := h.groups k
    exact ⟨taken, waiting, hsplit, by rwa [List.append_assoc], hwaiting⟩

/-- The writer takes everything that waits: for each database, this is one more group. -/
lemma take [PartialEquivBEq δ] (h : Grouped absent size submitted q records finished held told)
    (hphase : q.phase = .idle) :
    ∃ held', Grouped absent size submitted q.take records finished held' [] := by
  have hheld : held = [] ∧ told = [] := by
    have hholding := h.holding
    rw [hphase] at hholding
    cases hholding
    exact ⟨rfl, rfl⟩
  obtain ⟨rfl, rfl⟩ := hheld
  have htake : q.take = { q with
      queued := .empty
      phase := .ofChunks (q.queued.entries.flatMap fun (database, lot) => lot.chunks database size)
      } := by
    simp only [WriteQueue.take, h.size_eq, chunksOf?]
  rw [htake]
  refine ⟨q.queued.entries.flatMap fun (database, lot) => lot.chunks database size, ?_⟩
  refine ⟨h.size_eq, .ofChunks _, WriterPhase.ofChunks_ne_pausing _, h.records_eq,
    OrderedMap.distinctKeys_empty, fun k => ?_⟩
  obtain ⟨taken, waiting, hsplit, hlots, hwaiting⟩ := h.groups k
  refine ⟨taken ++ [waiting], [], ?_, ?_, rfl⟩
  · rw [hsplit]
    simp
  · rw [List.append_nil] at hlots
    rw [lotsFor_append, hlots, WriteQueue.lotsFor_queued k h.distinct, hwaiting,
      List.flatMap_append, List.flatMap_singleton]

/-- The writer ends. -/
lemma stop (h : Grouped absent size submitted q records finished held told)
    (hphase : q.phase = .idle) :
    Grouped absent size submitted { q with phase := .finished } records finished held told := by
  have hholding := h.holding
  rw [hphase] at hholding
  cases hholding
  exact ⟨h.size_eq, .finished, nofun, h.records_eq, h.distinct, h.groups⟩

/-- A call joins the last group for its database. -/
lemma store [PartialEquivBEq δ] (h : Grouped absent size submitted q records finished held told)
    (x : Submission δ α κ) :
    Grouped absent size (submitted ++ [x]) (q.store x.database x.points (x.cookies absent)) records
      finished held told := by
  refine ⟨h.size_eq, h.holding, h.unpaused, h.records_eq,
    OrderedMap.distinctKeys_insert h.distinct _ _, fun k => ?_⟩
  obtain ⟨taken, waiting, hsplit, hlots, hwaiting⟩ := h.groups k
  rw [WriteQueue.lotFor_store]
  by_cases hk : (x.database == k) = true
  · refine ⟨taken, waiting ++ [x], ?_, hlots, ?_⟩
    · rw [submissionsFor, List.filter_append, List.filter_singleton, hk, ← List.append_assoc,
        ← hsplit]
      rfl
    · rw [if_pos hk, hwaiting, gather_append_singleton]
  · refine ⟨taken, waiting, ?_, hlots, ?_⟩
    · rw [submissionsFor, List.filter_append, List.filter_singleton, ← hsplit]
      simp [hk, submissionsFor]
    · rw [if_neg hk, hwaiting]

/-- **Points and cookies stand side by side group by group**, whatever the size of chunks. -/
lemma exists_placed (h : Grouped absent size submitted q records finished held told) (k : δ) :
    ∃ taken : List (List (Submission δ α κ)), ∃ waiting,
      submissionsFor k submitted = taken.flatten ++ waiting ∧
        itemsFor k finished ++ itemsFor k held =
          taken.flatMap (fun group => (gather absent group).items) ∧
        q.lotFor k = gather absent waiting := by
  obtain ⟨taken, waiting, hsplit, hlots, hwaiting⟩ := h.groups k
  have pos := ChunkSize.pos_of_ofValue h.size_eq
  refine ⟨taken, waiting, hsplit, ?_, hwaiting⟩
  rw [← itemsFor_append, ← flatMap_items_lotsFor, hlots, List.flatMap_assoc]
  exact List.flatMap_congr fun group _ => Lot.items_slices pos _

/-- **Points stay with their own cookies** if each call for their database gave no cookies, or one
for each point. -/
lemma own (h : Grouped absent size submitted q records finished held told) (k : δ)
    (hfits : ∀ x ∈ submissionsFor k submitted, x.Fits) :
    (submissionsFor k submitted).flatMap (Submission.own absent) =
      itemsFor k finished ++ itemsFor k held ++ (q.lotFor k).items := by
  obtain ⟨taken, waiting, hsplit, hitems, hwaiting⟩ := h.exists_placed k
  rw [hsplit] at hfits
  have htaken : ∀ group ∈ taken, ∀ x ∈ group, x.Fits := fun group hgroup x hx =>
    hfits x (List.mem_append_left _ (List.mem_flatten.2 ⟨group, hgroup, hx⟩))
  have hlast : ∀ x ∈ waiting, x.Fits := fun x hx => hfits x (List.mem_append_right _ hx)
  rw [hsplit, hitems, hwaiting, items_gather hlast, List.flatMap_append, ← List.flatMap_id,
    List.flatMap_assoc]
  congr 1
  exact List.flatMap_congr fun group hgroup => (items_gather (htaken group hgroup)).symm

/-- All points of a chunk have cookies if each call for their database gave no cookies, or one for
each point. -/
lemma fst_items (h : Grouped absent size submitted q records finished held told) {k : δ}
    (hfits : ∀ x ∈ submissionsFor k submitted, x.Fits) (hc : c ∈ finished ++ held)
    (hk : (c.database == k) = true) : c.items.map Prod.fst = c.points := by
  obtain ⟨taken, waiting, hsplit, hlots, -⟩ := h.groups k
  have hmem : c.lot ∈ lotsFor k (finished ++ held) :=
    List.mem_map_of_mem (List.mem_filter.2 ⟨hc, hk⟩)
  rw [hlots] at hmem
  obtain ⟨group, hgroup, hslice⟩ := List.mem_flatMap.1 hmem
  have hcookies : (gather absent group).cookies.length = (gather absent group).points.length := by
    refine length_cookies_gather fun x hx => hfits x ?_
    rw [hsplit]
    exact List.mem_append_left _ (List.mem_flatten.2 ⟨group, hgroup, hx⟩)
  have hlength :=
    Lot.length_cookies_of_mem_slices (ChunkSize.pos_of_ofValue h.size_eq) hcookies hslice
  exact List.map_fst_zip (Nat.le_of_eq hlength.symm)

end Grouped

/-! ## Runs -/

namespace SharedQueue

variable [BEq δ] {o : Outlet ω δ α κ} {absent : κ} {size : Nat}
  {submitted : List (Submission δ α κ)}

/-- The runs of a queue, with the calls that have added points. -/
inductive Submits (o : Outlet ω δ α κ) (absent : κ) (settings : QueueSettings) (world : ω) :
    List (Submission δ α κ) → SharedQueue ω δ α κ → Prop where
  /-- A queue that was just made. -/
  | new : Submits o absent settings world [] (.new settings world)
  /-- A queue that accepts the points of a call. -/
  | submit {submitted : List (Submission δ α κ)} {s : SharedQueue ω δ α κ}
    {queue : WriteQueue δ α κ} (h : Submits o absent settings world submitted s)
    (x : Submission δ α κ)
    (haccept : s.queue.accept x.database x.points (x.cookies absent) = .ok queue) :
    Submits o absent settings world (submitted ++ [x]) { s with queue }
  /-- A queue after any other action. -/
  | step {submitted : List (Submission δ α κ)} {s : SharedQueue ω δ α κ}
    (h : Submits o absent settings world submitted s) (a : Action δ α κ)
    (ha : ∀ database items, a ≠ .append database items) :
    Submits o absent settings world submitted (s.step o a)

/-- A queue after any number of steps of the writer. -/
lemma Submits.work {settings : QueueSettings} {world : ω} {s : SharedQueue ω δ α κ}
    (h : Submits o absent settings world submitted s) (steps : Nat) :
    Submits o absent settings world submitted
      ((List.replicate steps (.write true)).foldl (SharedQueue.step o) s) := by
  induction steps generalizing s with
  | zero => exact h
  | succ steps ih => exact ih (h.step (.write true) (by simp))

variable {s : SharedQueue (Recorded ω (OutletRecord δ α κ)) δ α κ}

/-- The chunks of a queue come from groups of calls. -/
def IsGrouped (absent : κ) (size : Nat) (submitted : List (Submission δ α κ))
    (s : SharedQueue (Recorded ω (OutletRecord δ α κ)) δ α κ) : Prop :=
  ∃ finished held told, Grouped absent size submitted s.queue s.world.records finished held told

variable [PartialEquivBEq δ]

/-- A writer without a chunk in hand moves no points from one group to another. -/
lemma IsGrouped.writerStep_of_idle (h : s.IsGrouped absent size submitted)
    (hidle : s.queue.phase = .idle) (elapsed : Bool) :
    (s.writerStep o.recorded elapsed).IsGrouped absent size submitted := by
  obtain ⟨finished, held, told, h⟩ := h
  obtain ⟨-, hstep⟩ | ⟨-, -, hstep⟩ | ⟨-, -, hstep⟩ | ⟨-, hstep⟩ :=
    writerStep_cases_of_idle (o := o.recorded) h.size_eq hidle elapsed
  · rw [hstep]
    exact ⟨finished, held, told, h⟩
  · rw [hstep]
    exact ⟨finished, held, told, h.stop hidle⟩
  · obtain ⟨held', htaken⟩ := h.take hidle
    rw [hstep]
    exact ⟨finished, held', [], htaken⟩
  · rw [hstep]
    exact ⟨finished, held, told, h⟩

/-- **No step of the writer moves points from one group to another.** -/
lemma IsGrouped.writerStep (h : s.IsGrouped absent size submitted) (ho : o.CallbacksReturn)
    (hwrites : ∀ database points w, (o.write database points w).1 = .ok ()) (elapsed : Bool) :
    (s.writerStep o.recorded elapsed).IsGrouped absent size submitted := by
  by_cases hidle : s.queue.phase = .idle
  · exact h.writerStep_of_idle hidle elapsed
  obtain ⟨finished, held, told, h⟩ := h
  by_cases hend : s.queue.phase = .finished
  · simp only [SharedQueue.writerStep, hend]
    exact ⟨_, _, _, h⟩
  obtain ⟨hqueue, hworld⟩ := writerStep_of_ne_idle (o := o.recorded) hidle elapsed
  rw [IsGrouped, hqueue, hworld]
  obtain ⟨left, rest, world, more, hstep, hholding⟩ | ⟨c, rest, hstep, rfl, rfl⟩ :=
    WriteQueue.exists_delivery ho hwrites h.holding hidle hend h.unpaused
  · rw [hstep]
    exact ⟨_, _, _, h.goOn more hholding⟩
  · rw [hstep]
    exact ⟨_, _, _, h.finish⟩

/-- No action that adds no points moves points from one group to another. -/
lemma IsGrouped.step (h : s.IsGrouped absent size submitted) (ho : o.CallbacksReturn)
    (hwrites : ∀ database points w, (o.write database points w).1 = .ok ()) (a : Action δ α κ)
    (ha : ∀ database items, a ≠ .append database items) :
    (s.step o.recorded a).IsGrouped absent size submitted := by
  cases a with
  | append database items => exact absurd rfl (ha database items)
  | write elapsed => exact h.writerStep ho hwrites elapsed
  | beginFlush | endFlush | refuse | abandon | join =>
    obtain ⟨finished, held, told, h⟩ := h
    simp only [SharedQueue.step]
    split <;>
      exact ⟨finished, held, told, h.size_eq, h.holding, h.unpaused, h.records_eq, h.distinct,
        h.groups⟩

/-- The chunks come from groups of calls after any run. -/
lemma Submits.isGrouped {settings : QueueSettings} {world : ω}
    (hs : Submits o.recorded absent settings ⟨world, []⟩ submitted s)
    (hsize : ChunkSize.ofValue settings.batchSize = .atMost size) (ho : o.CallbacksReturn)
    (hwrites : ∀ database points w, (o.write database points w).1 = .ok ()) :
    s.IsGrouped absent size submitted := by
  induction hs with
  | new =>
    exact ⟨[], [], [], hsize, .idle, nofun, rfl, OrderedMap.distinctKeys_empty,
      fun k => ⟨[], [], rfl, rfl, rfl⟩⟩
  | submit _ x haccept ih =>
    obtain ⟨finished, held, told, h⟩ := ih
    simp only [WriteQueue.accept] at haccept
    split at haccept
    · cases haccept
      exact ⟨finished, held, told, h.store x⟩
    · cases haccept
  | step _ a ha ih => exact ih.step ho hwrites a ha

/-- Which cookie each point is confirmed with. -/
structure Pairs (absent : κ) (size : Nat) (submitted : List (Submission δ α κ))
    (s : SharedQueue (Recorded ω (OutletRecord δ α κ)) δ α κ) (finished held : List (Chunk δ α κ))
    (told : List (OutletRecord δ α κ)) : Prop where
  /-- The chunks come from groups of calls, and the points of a finished chunk that have cookies
  have been confirmed with these, each of them once and in order. -/
  grouped : Grouped absent size submitted s.queue s.world.records finished held told
  /-- Points and cookies stand side by side group by group, the first point of a group with the
  first cookie of the group and so on, whichever call gave it. -/
  placed : ∀ k, ∃ taken : List (List (Submission δ α κ)), ∃ waiting,
    submissionsFor k submitted = taken.flatten ++ waiting ∧
      itemsFor k finished ++ itemsFor k held =
        taken.flatMap (fun group => (gather absent group).items) ∧
      s.queue.lotFor k = gather absent waiting
  /-- If each call for a database gave no cookies, or one for each point, its points stay with the
  cookies that they were given, in the order of the calls. -/
  own : ∀ k, (∀ x ∈ submissionsFor k submitted, x.Fits) →
    (submissionsFor k submitted).flatMap (Submission.own absent) =
      itemsFor k finished ++ itemsFor k held ++ (s.queue.lotFor k).items
  /-- Then each point of its chunks has a cookie, so that each one is confirmed. -/
  whole : ∀ k, (∀ x ∈ submissionsFor k submitted, x.Fits) → ∀ c ∈ finished ++ held,
    (c.database == k) = true → c.items.map Prod.fst = c.points

/-- **Which cookie each point is confirmed with**, after any run in which all writes succeed. Points
and cookies of the calls that the writer takes up together stand side by side; points keep their own
cookies if each call gave no cookies, or one for each point.

**Proof sketch.** What waits for a database is always what some calls gathered, and taking it up
makes these a group (`Submits.isGrouped`). A lot is cut into chunks at the same places among its
points and among its cookies (`Lot.items_slices`), so that the size of chunks does not matter. -/
theorem Submits.pairs {settings : QueueSettings} {world : ω}
    (hs : Submits o.recorded absent settings ⟨world, []⟩ submitted s)
    (hsize : ChunkSize.ofValue settings.batchSize = .atMost size) (ho : o.CallbacksReturn)
    (hwrites : ∀ database points w, (o.write database points w).1 = .ok ()) :
    ∃ finished held told, Pairs absent size submitted s finished held told := by
  obtain ⟨finished, held, told, h⟩ := hs.isGrouped hsize ho hwrites
  exact ⟨finished, held, told, h, h.exists_placed, h.own, fun k hfits c hc => h.fst_items hfits hc⟩

omit [BEq δ] [PartialEquivBEq δ]

/-- The points that were confirmed, with the cookies. -/
def confirmedOf (records : List (OutletRecord δ α κ)) : List (α × κ) :=
  records.filterMap fun
    | .confirmed point cookie => some (point, cookie)
    | _ => none

/-- Two calls, of which the first gives no cookies and the second gives one for its point. -/
def fittingCalls : List (Submission String Nat Nat) :=
  [⟨"weather", [1, 2, 3], none⟩, ⟨"weather", [4], some [40]⟩]

/-- Two calls, of which the first gives one cookie for two points. -/
def misfittingCalls : List (Submission String Nat Nat) :=
  [⟨"weather", [1, 2], some [10]⟩, ⟨"weather", [3], some [30]⟩]

/-- A queue after some calls and some steps of its writer, all of whose writes succeed. -/
def workedOffCalls (settings : QueueSettings) (calls : List (Submission String Nat Nat))
    (steps : Nat) : SharedQueue (Recorded Unit (OutletRecord String Nat Nat)) String Nat Nat :=
  (List.replicate steps (.write true)).foldl (step WriteQueue.quietOutlet.recorded)
    { new settings ⟨(), []⟩ with
      queue := calls.foldl (fun q x => q.store x.database x.points (x.cookies 0))
        (WriteQueue.new settings) }

/-- The run of two calls. -/
lemma submits_workedOffCalls (settings : QueueSettings) (x y : Submission String Nat Nat)
    (steps : Nat) : Submits WriteQueue.quietOutlet.recorded 0 settings ⟨(), []⟩ [x, y]
      (workedOffCalls settings [x, y] steps) :=
  ((Submits.new.submit x rfl).submit y rfl).work steps

/-- Four points in chunks of two are confirmed with their own cookies. -/
theorem pairs_fittingCalls :
    (∃ finished held told, Pairs 0 2 fittingCalls
      (workedOffCalls { batchSize := .int 2 } fittingCalls 9) finished held told) ∧
    confirmedOf (workedOffCalls { batchSize := .int 2 } fittingCalls 9).world.records =
      fittingCalls.flatMap (Submission.own 0) :=
  ⟨(submits_workedOffCalls { batchSize := .int 2 } _ _ 9).pairs rfl
    ⟨fun _ _ _ => rfl, fun _ _ _ _ => rfl⟩ fun _ _ _ => rfl, by decide⟩

/-- **A cookie crosses from one call to another** if a call gives fewer cookies than points: all
three points are written, but the second one is confirmed with the cookie of the third, and the
third one is not confirmed. -/
theorem not_own_misfittingCalls :
    Submits WriteQueue.quietOutlet.recorded 0 {} ⟨(), []⟩ misfittingCalls
        (workedOffCalls {} misfittingCalls 5) ∧
      handledOf (workedOffCalls {} misfittingCalls 5).world.records = [("weather", [1, 2, 3])] ∧
      confirmedOf (workedOffCalls {} misfittingCalls 5).world.records = [(1, 10), (2, 30)] ∧
      misfittingCalls.flatMap (Submission.own 0) = [(1, 10), (2, 0), (3, 30)] ∧
      confirmedOf (workedOffCalls {} misfittingCalls 5).world.records ≠
        misfittingCalls.flatMap (Submission.own 0) :=
  ⟨submits_workedOffCalls {} _ _ 5, by decide, by decide, by decide, by decide⟩

end SharedQueue

/-! ## Queues over a client -/

/-- **What a call adds** to an open queue over a client: its points, and its cookies as they are or,
if it gives none, an absent one for each point. -/
theorem QueueService.appendAll_of_open (s : QueueService) (x : Submission Value Entry Value)
    (hopen : s.queue.running = true) (hkey : x.database.checkKey = .ok ()) :
    s.appendAll (.many x.points) x.database (x.cookies?.elim .null .list) =
      (.ok (), { s with queue := s.queue.store x.database x.points (x.cookies .null) }) := by
  obtain ⟨database, points, cookies?⟩ := x
  cases cookies? with
  | none =>
    simp [appendAll, hopen, hkey, Value.isNull, Value.items, Entries.count, Entries.toList,
      Submission.cookies, Except.map]
  | some cookies =>
    simp [appendAll, hopen, hkey, Value.isNull, Value.items, Entries.toList, Submission.cookies]

end SeriesClient
