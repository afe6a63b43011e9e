import SeriesClient.Proofs.Stream.Closing

set_option relaxedAutoImplicit false
set_option autoImplicit false

/-!
# Streams are lazy and in order

A stream that decodes its batches hands out the items of all of them one by one, and pulls no batch
before an item of it is asked for.

## Main definitions

* `SeriesClient.Decoding.Yields` — a decoder that hands out certain items of each batch.
* `SeriesClient.QueryStream.handedOut` — what a number of calls hand out.
* `SeriesClient.QueryStream.ahead` — the items that are still to come.
* `SeriesClient.QueryStream.Amid` — a stream that has handed out an item.
* `SeriesClient.QueryStream.OnDemand` — what has been pulled and released after a number of items.

## Main results

* `SeriesClient.QueryStream.Open.pull_yielded` — pulling leads to the first item that is left.
* `SeriesClient.QueryStream.onDemand_handedOut` — the items of any number of calls, and what
  has been pulled for them.

## Design

What a stream has still to hand out is read off where its iteration stands, so a call takes
the first item off this list. What it tracks there is known from `Open`, and the batch in
progress is the last one that has arrived.
-/

namespace SeriesClient

variable {ω β ι : Type}

/-- A decoder that hands out the given items of each of the given batches, and does nothing
else. -/
def Decoding.Yields (items : β → List ι) (bs : List β) : Decoding ω β ι → Prop
  | .raw _ => False
  | .steps count step => ∀ b ∈ bs, count b = (items b).length ∧
    ∀ i x, (items b)[i]? = some x → ∀ w, (step b i w).1 = .item x

namespace QueryStream

/-- The items that a number of calls hand out, and the stream after these calls. -/
def handedOut (h : Handler ω β ι) : Nat → QueryStream ω β → List ι × QueryStream ω β
  | 0, s => ([], s)
  | k + 1, s =>
    match next h s with
    | (.item x, t) => (x :: (handedOut h k t).1, (handedOut h k t).2)
    | (_, t) => handedOut h k t

/-- The items that are still to come. -/
def ahead (items : β → List ι) (s : QueryStream ω β) : List ι :=
  match s.position with
  | .between => (s.source.pending.map Delivery.batch).flatMap items
  | .within _ b i => (items b).drop i ++ (s.source.pending.map Delivery.batch).flatMap items
  | .finished => []

/-- A stream that has handed out an item. -/
structure Amid (items : β → List ι) (bs : List β) (decoding : Decoding ω β ι)
    (s : QueryStream (Recorded ω (StreamRecord β)) β) : Prop where
  /-- The stream is open. -/
  opened : s.Open decoding (deliveries bs)
  /-- The source has not ended. -/
  source_open : s.source.closed = false
  /-- The iteration stands inside a batch, behind one of its items. -/
  within : ∃ n b i, s.position = .within n b i ∧ 0 < i ∧ i ≤ (items b).length

/-- What a call comes to on a stream with the given items ahead. -/
inductive Yielded (items : β → List ι) (bs : List β) (decoding : Decoding ω β ι) :
    List ι → Outcome ι → QueryStream (Recorded ω (StreamRecord β)) β → Prop where
  /-- The first of them. -/
  | item {x : ι} {t : QueryStream (Recorded ω (StreamRecord β)) β}
    (ht : t.Amid items bs decoding) : Yielded items bs decoding (x :: t.ahead items) (.item x) t
  /-- There are none, and there will be none. -/
  | spent {outcome : Outcome ι} {t : QueryStream (Recorded ω (StreamRecord β)) β}
    (houtcome : ∀ x, outcome ≠ .item x) (ht : t.closed = true ∨ t.position = .finished) :
    Yielded items bs decoding [] outcome t

/-- A stream that waits for a batch, having released all of those before it. -/
structure Waiting (h : Handler ω β ι) (bs : List β)
    (s : QueryStream (Recorded ω (StreamRecord β)) β) (n : Nat)
    (t : QueryStream (Recorded ω (StreamRecord β)) β) : Prop where
  /-- It waits for the source. -/
  waits : Waits h.recorded s (deliveries (bs.drop n)) t
  /-- So many batches have arrived. -/
  arrived_eq : t.arrived = n
  /-- None of them is tracked. -/
  acquired_eq : t.acquired = []
  /-- All of them have been released. -/
  attempted_eq : t.attempted = bs.take n

/-- Where a stream stands after a number of calls that had the given items ahead before them. -/
inductive Reached (items : β → List ι) (bs : List β) (decoding : Decoding ω β ι)
    (s : QueryStream (Recorded ω (StreamRecord β)) β) (left : List ι) :
    Nat → QueryStream (Recorded ω (StreamRecord β)) β → Prop where
  /-- There was no call. -/
  | start : Reached items bs decoding s left 0 s
  /-- The calls have handed out an item each. -/
  | amid {k : Nat} {t : QueryStream (Recorded ω (StreamRecord β)) β} (hk : k < left.length)
    (ht : t.Amid items bs decoding) (hahead : t.ahead items = left.drop (k + 1)) :
    Reached items bs decoding s left (k + 1) t
  /-- There were more calls than items. -/
  | spent {k : Nat} {t : QueryStream (Recorded ω (StreamRecord β)) β} (hk : left.length < k)
    (ht : t.closed = true ∨ t.position = .finished) : Reached items bs decoding s left k t

/-- What has been pulled and released once a number of calls have handed out an item each. -/
structure OnDemand (h : Handler ω β ι) (items : β → List ι) (bs : List β) (k : Nat)
    (s : QueryStream (Recorded ω (StreamRecord β)) β) : Prop where
  /-- Before the first call, nothing has been pulled. -/
  untouched : k = 0 → s.arrived = 0 ∧ s.source.pending = deliveries bs ∧ s.world.records = []
  /-- After an item, the batches up to the one that holds it have been pulled. All of them but this
  one have been released. -/
  pulled : 0 < k → k ≤ (bs.flatMap items).length → ∃ n b, bs[n]? = some b ∧
    ((bs.take n).flatMap items).length < k ∧ k ≤ ((bs.take (n + 1)).flatMap items).length ∧
    s.arrived = n + 1 ∧ s.source.pending = deliveries (bs.drop (n + 1)) ∧
    s.attempted = bs.take n ∧ s.acquired = [(n, b)]
  /-- Whenever the next call pulls a batch, all batches before it have been released. -/
  released : ∀ n, s.arrived ≤ n → n < (next h.recorded s).2.arrived → ∃ t, Waiting h bs s n t

variable {h : Handler ω β ι} {items : β → List ι} {bs : List β}
  {s t : QueryStream (Recorded ω (StreamRecord β)) β}

/-- The batches that have arrived are the first ones. -/
@[simp]
lemma delivered_deliveries (bs : List β) (s : QueryStream ω β) :
    s.delivered (deliveries bs) = bs.take s.arrived := by
  rw [delivered, List.map_take, map_batch_deliveries]

/-- A stream that has nothing more to hand out stays as it is. -/
lemma next_of_spent (h : Handler ω β ι) {s : QueryStream ω β}
    (hs : s.closed = true ∨ s.position = .finished) : next h s = (.stop, s) := by
  rcases hs with hs | hs
  · exact next_of_closed h s hs
  · simp [next, hs]

/-- Calls of a stream that has nothing more to hand out leave it as it is. -/
lemma handedOut_of_spent (h : Handler ω β ι) {s : QueryStream ω β}
    (hs : s.closed = true ∨ s.position = .finished) (k : Nat) : handedOut h k s = ([], s) := by
  induction k with
  | zero => rfl
  | succ k ih => simp only [handedOut, next_of_spent h hs, ih]

section Steps

variable {count : β → Nat} {step : β → Nat → ω → DecodeStep ι × List Notice × ω}

/-! ## Where a stream stands -/

/-- A stream between two batches has released all that have arrived. -/
lemma Open.released_of_between (hs : s.Open (.steps count step) (deliveries bs))
    (hposition : s.position = .between) : s.acquired = [] ∧ s.attempted = bs.take s.arrived := by
  have hacquired : s.acquired = [] := by
    have hholds := hs.holds
    simpa only [Holds, hposition] using hholds
  have hbatches := hs.tracked.batches
  rw [hacquired, delivered_deliveries, List.map_nil, List.append_nil] at hbatches
  exact ⟨hacquired, hbatches⟩

/-- A stream inside a batch tracks this batch, which is the last one that has arrived, and has
released all others. -/
lemma Open.released_of_within (hs : s.Open (.steps count step) (deliveries bs)) {n : Nat} {b : β}
    {i : Nat} (hposition : s.position = .within n b i) :
    s.acquired = [(n, b)] ∧ s.arrived = n + 1 ∧ s.attempted = bs.take n ∧ bs[n]? = some b := by
  have hacquired : s.acquired = [(n, b)] := by
    have hholds := hs.holds
    simpa only [Holds, hposition] using hholds
  have hnumber : n = s.attempted.length := by
    have hnumbers := hs.tracked.numbers
    simpa [hacquired] using hnumbers
  have hbatches : s.attempted ++ [b] = bs.take s.arrived := by
    have hbatches := hs.tracked.batches
    rw [hacquired, delivered_deliveries] at hbatches
    exact hbatches
  have hle : s.arrived ≤ bs.length := by
    have hle := hs.tracked.arrived_le
    simpa [deliveries] using hle
  have harrived : s.arrived = n + 1 := by
    have hlength := congrArg List.length hbatches
    rw [List.length_append, List.length_singleton, List.length_take_of_le hle] at hlength
    omega
  rw [harrived] at hbatches
  refine ⟨hacquired, harrived, ?_, ?_⟩
  · have htake := congrArg (List.take n) hbatches
    rw [hnumber, List.take_left, ← hnumber, List.take_take] at htake
    rw [htake, Nat.min_eq_left (Nat.le_succ n)]
  · have hget := congrArg (fun l : List β => l[n]?) hbatches
    rw [hnumber] at hget
    simpa [← hnumber] using hget.symm

/-- What a stream inside a batch has ahead. -/
lemma ahead_of_within {s : QueryStream ω β} {n : Nat} {b : β} {i : Nat}
    (hposition : s.position = .within n b i) :
    s.ahead items = (items b).drop i ++ (s.source.pending.map Delivery.batch).flatMap items := by
  rw [ahead, hposition]

/-- A stream that has handed out an item can go on. -/
lemma Amid.position_ne (hs : s.Amid items bs (.steps count step)) : s.position ≠ .finished := by
  obtain ⟨n, b, i, hposition, -⟩ := hs.within
  rw [hposition]
  nofun

/-- What a stream that has handed out an item has pulled and released. -/
lemma Amid.reached (hs : s.Amid items bs (.steps count step)) {k : Nat}
    (hk : k ≤ (bs.flatMap items).length) (hahead : s.ahead items = (bs.flatMap items).drop k) :
    ∃ n b, bs[n]? = some b ∧
      ((bs.take n).flatMap items).length < k ∧ k ≤ ((bs.take (n + 1)).flatMap items).length ∧
      s.arrived = n + 1 ∧ s.source.pending = deliveries (bs.drop (n + 1)) ∧
      s.attempted = bs.take n ∧ s.acquired = [(n, b)] := by
  obtain ⟨n, b, i, hposition, hpos, hle⟩ := hs.within
  obtain ⟨hacquired, harrived, hattempted, hget⟩ := hs.opened.released_of_within hposition
  have hpending : s.source.pending = deliveries (bs.drop (n + 1)) := by
    rw [hs.opened.pending_eq, harrived, drop_deliveries]
  have htake : bs.take (n + 1) = bs.take n ++ [b] := by
    rw [List.take_add_one, hget]
    rfl
  have hsplit : (bs.flatMap items).length =
      ((bs.take (n + 1)).flatMap items).length + ((bs.drop (n + 1)).flatMap items).length := by
    rw [← List.length_append, ← List.flatMap_append, List.take_append_drop]
  have hreached : ((bs.take (n + 1)).flatMap items).length =
      ((bs.take n).flatMap items).length + (items b).length := by
    rw [htake, List.flatMap_append, List.length_append, List.flatMap_singleton]
  have hleft := congrArg List.length hahead
  rw [ahead_of_within hposition, hpending, map_batch_deliveries, List.length_append,
    List.length_drop, List.length_drop] at hleft
  exact ⟨n, b, hget, by omega, by omega, harrived, hpending, hattempted, hacquired⟩

/-! ## One batch -/

/-- A step of a decoder hands out an item. -/
lemma exists_runSteps_item {b : β} {i : Nat} {x : ι} (hitem : ∀ w, (step b i w).1 = .item x)
    (number left : Nat) : ∃ notices world,
      runSteps h.recorded (Decoding.recordedStep step) number b (left + 1) i s =
        (some (.item x), { s with
          notices
          world := ⟨world, s.world.records⟩
          position := .within number b (i + 1) }) := by
  have hresult := hitem s.world.world
  simp only [QueryStream.runSteps, Decoding.recordedStep]
  rcases hstep : step b i s.world.world with ⟨result, notices, world⟩
  rw [hstep] at hresult
  cases hresult
  exact ⟨_, _, rfl⟩

variable (step) in
/-- After its last item, a batch is released. -/
lemma exists_runSteps_release (hback : ∀ w, (h.callback w).1 = .ok ()) {number : Nat} {b : β}
    (hrelease : ∀ w, (h.releaseBatch b w).1 = .ok ()) (hacquired : s.acquired = [(number, b)])
    (i : Nat) : ∃ w,
      runSteps h.recorded (Decoding.recordedStep step) number b 0 i s =
        (none, { s with acquired := [], world := w, position := .between }) := by
  obtain ⟨records, result, world, heq, hrecord, hof⟩ := exists_releaseRecord h hacquired
  have hresult : result = .ok () := by
    cases hrecord with
    | completed _ =>
      obtain ⟨w, hw⟩ := hof _ (List.mem_cons_of_mem _ (List.mem_singleton_self _))
      rw [← hw]
      exact hrelease w
    | interrupted fault =>
      exact absurd (hof _ (List.mem_singleton_self _)) (StreamRecord.not_of_calledBack hback fault)
  rw [hresult] at heq
  simp only [QueryStream.runSteps, heq]
  exact ⟨_, rfl⟩

variable (items) in
/-- The end of the source is the end of the stream. -/
lemma Open.spent_atEnd (hsteps : h.decoding = .steps count step)
    (hs : t.Open (.steps count step) (deliveries bs)) :
    Yielded items bs (.steps count step) [] (QueryStream.atEnd h.recorded t).1
        (QueryStream.atEnd h.recorded t).2 ∧
      (QueryStream.atEnd h.recorded t).2.arrived = t.arrived := by
  obtain ⟨records, result, u, hclose, hclosed⟩ := exists_closedBy
    (s := { t with source := { t.source with closed := true }, position := .finished }) h
    hs.closed_eq
  simp only [QueryStream.atEnd, h.recorded_steps hsteps, finish, hclose]
  cases result with
  | ok => exact ⟨.spent (fun _ h => by cases h) (.inl hclosed.closed_eq), hclosed.arrived_eq⟩
  | error fault =>
    exact ⟨.spent (fun _ h => by cases h) (.inl hclosed.closed_eq), hclosed.arrived_eq⟩

/-- What the steps of a batch lead to that has the given number of items: the next of them, or else
the next batch. -/
inductive Served (items : β → List ι) (bs : List β) (decoding : Decoding ω β ι)
    (s : QueryStream (Recorded ω (StreamRecord β)) β) (b : β) (i : Nat) :
    Option (Outcome ι) → QueryStream (Recorded ω (StreamRecord β)) β → Prop where
  /-- There is an item. -/
  | item {x : ι} {t : QueryStream (Recorded ω (StreamRecord β)) β} (ht : t.Amid items bs decoding)
    (harrived : t.arrived = s.arrived)
    (hahead : (items b).drop i ++ (s.source.pending.map Delivery.batch).flatMap items =
      x :: t.ahead items) : Served items bs decoding s b i (some (.item x)) t
  /-- There is none, and the batch has been released. -/
  | released {t : QueryStream (Recorded ω (StreamRecord β)) β}
    (ht : t.Open decoding (deliveries bs)) (hposition : t.position = .between)
    (harrived : t.arrived = s.arrived) (hsource : t.source = s.source)
    (hnone : (items b).drop i = []) : Served items bs decoding s b i none t

variable (hyields : (Decoding.steps count step).Yields items bs)
  (hback : ∀ w, (h.callback w).1 = .ok ())
  (hrelease : ∀ b ∈ bs, ∀ w, (h.releaseBatch b w).1 = .ok ())

include hyields hback hrelease

/-- **The steps of a batch that is tracked** hand out its next item, or release it. -/
lemma Tracked.served (hs : s.Tracked (deliveries bs)) (hopen : s.closed = false)
    (hsource : s.source.closed = false)
    (hpending : s.source.pending = deliveries (bs.drop s.arrived)) {number : Nat} {b : β}
    (hb : b ∈ bs) (hacquired : s.acquired = [(number, b)]) (i : Nat) :
    Served items bs (.steps count step) s b i
      (QueryStream.runSteps h.recorded (Decoding.recordedStep step) number b (count b - i) i s).1
      (QueryStream.runSteps h.recorded (Decoding.recordedStep step) number b (count b - i) i
        s).2 := by
  obtain ⟨hcount, hitems⟩ := hyields b hb
  rcases hleft : count b - i with _ | left
  · have hnone : (items b).drop i = [] := List.drop_eq_nil_of_le (by omega)
    obtain ⟨w, hrun⟩ := exists_runSteps_release step hback (hrelease b hb) hacquired i
    have hquiet : 0 < 0 → ∀ w, (step b i w).1 ≠ .close := fun hlt => absurd hlt (Nat.lt_irrefl 0)
    have hstepped := hs.runSteps count hopen (by rw [hpending, drop_deliveries]) hback hacquired 0 i
      hquiet
    rw [hrun] at hstepped ⊢
    exact .released hstepped.opened rfl rfl rfl hnone
  · have hi : i < (items b).length := by omega
    have hitem := hitems i _ (List.getElem?_eq_getElem hi)
    obtain ⟨notices, world, hrun⟩ :=
      exists_runSteps_item (h := h) (s := s) hitem number left
    have hquiet : 0 < left + 1 → ∀ w, (step b i w).1 ≠ .close := fun _ w => by rw [hitem w]; nofun
    have hstepped := hs.runSteps count hopen (by rw [hpending, drop_deliveries]) hback hacquired
      (left + 1) i hquiet
    rw [hrun] at hstepped ⊢
    refine .item ⟨hstepped.opened, hsource, number, b, i + 1, rfl, Nat.succ_pos i, hi⟩ rfl ?_
    rw [List.drop_eq_getElem_cons hi, ahead_of_within rfl]
    rfl

/-! ## Pulling -/

/-- **Pulling leads to the first item that is left**, and each batch is pulled with all batches
before it released.

**Proof sketch.** Induction on the batches that are pending. A batch without items is released
before the stream waits for the next one. -/
theorem Open.pull_yielded (hsteps : h.decoding = .steps count step)
    (hs : t.Open (.steps count step) (deliveries bs)) (hposition : t.position = .between)
    (hsource : t.source.closed = false) {pending : List (Delivery β)}
    (hpending : t.source.pending = pending) (hwaits : Waits h.recorded s pending t) :
    Yielded items bs (.steps count step) ((pending.map Delivery.batch).flatMap items)
        (QueryStream.pull h.recorded pending t).1 (QueryStream.pull h.recorded pending t).2 ∧
      ∀ n, t.arrived ≤ n → n < (QueryStream.pull h.recorded pending t).2.arrived →
        ∃ u, Waiting h bs s n u := by
  have hdecoding := h.recorded_steps hsteps
  induction pending generalizing t with
  | nil =>
    simp only [QueryStream.pull, hsource]
    cases t.source.failure with
    | some fault =>
      exact ⟨.spent (fun _ h => by cases h) (.inr rfl),
        fun n hle hlt => absurd hlt (Nat.not_lt.2 hle)⟩
    | none =>
      obtain ⟨hspent, harrived⟩ := hs.spent_atEnd items hsteps
      refine ⟨hspent, fun n hle hlt => ?_⟩
      rw [harrived] at hlt
      exact absurd hlt (Nat.not_lt.2 hle)
  | cons d rest ih =>
    obtain ⟨b, hb, rfl⟩ : ∃ b ∈ bs, (⟨b, false⟩ : Delivery β) = d :=
      List.mem_map.1 (hs.mem_of_pending hpending)
    obtain ⟨hacquired, hattempted⟩ := hs.released_of_between hposition
    have hhere : Waiting h bs s t.arrived t := by
      refine ⟨?_, rfl, hacquired, hattempted⟩
      rw [← drop_deliveries, ← hs.pending_eq, hpending]
      exact hwaits
    obtain ⟨htracked, hrest⟩ := hs.arrive hpending t.position
    have hone : t.acquired ++ [(t.arrived, b)] = [(t.arrived, b)] := by
      rw [hacquired]
      rfl
    have hserved := htracked.served hyields hback hrelease hs.closed_eq hsource
      (by rw [hrest, drop_deliveries]) hb hone 0
    have hended : ¬ t.source.closed = true := by simp [hsource]
    simp only [QueryStream.pull, if_neg hended, Bool.false_eq_true, if_false, hdecoding]
    rw [Nat.sub_zero] at hserved
    rcases hrun : QueryStream.runSteps h.recorded (Decoding.recordedStep step) t.arrived b
      (count b) 0 { t with
        source := { t.source with pending := rest }
        acquired := t.acquired ++ [(t.arrived, b)]
        arrived := t.arrived + 1 } with ⟨result, u⟩
    rw [hrun] at hserved
    cases hserved with
    | item hu harrived hahead =>
      refine ⟨?_, fun n hle hlt => ?_⟩
      · rw [List.map_cons, List.flatMap_cons]
        exact hahead ▸ .item hu
      · have harrived : u.arrived = t.arrived + 1 := harrived
        have hlt : n < u.arrived := hlt
        obtain rfl : n = t.arrived := by omega
        exact ⟨t, hhere⟩
    | released hu hbetween harrived hsame hnone =>
      have hsource' : u.source.closed = false := by
        rw [hsame]
        exact hsource
      have hwaits' : Waits h.recorded s rest u := .pulled hdecoding hwaits hsource rfl hrun
      obtain ⟨hyielded, hothers⟩ := ih hu hbetween hsource' (by rw [hsame]) hwaits'
      refine ⟨?_, fun n hle hlt => ?_⟩
      · have hitems : items b = [] := hnone
        rw [List.map_cons, List.flatMap_cons, hitems, List.nil_append]
        exact hyielded
      · rcases Nat.eq_or_lt_of_le hle with rfl | hle
        · exact ⟨t, hhere⟩
        · refine hothers n ?_ hlt
          rw [harrived]
          exact hle

/-- **A call for the next item** hands out the first item that is left, and pulls each batch with
all batches before it released. -/
lemma Open.next_yielded (hsteps : h.decoding = .steps count step)
    (hs : s.Open (.steps count step) (deliveries bs)) (hsource : s.source.closed = false)
    (hposition : s.position ≠ .finished) :
    Yielded items bs (.steps count step) (s.ahead items) (QueryStream.next h.recorded s).1
        (QueryStream.next h.recorded s).2 ∧
      ∀ n, s.arrived ≤ n → n < (QueryStream.next h.recorded s).2.arrived →
        ∃ t, Waiting h bs s n t := by
  have hdecoding := h.recorded_steps hsteps
  have hopen : ¬ s.closed = true := by simp [hs.closed_eq]
  cases hwhere : s.position with
  | finished => exact absurd hwhere hposition
  | between =>
    have hnext : QueryStream.next h.recorded s =
        QueryStream.pull h.recorded s.source.pending s := by
      rw [QueryStream.next, if_neg hopen, hwhere]
    rw [hnext, ahead, hwhere]
    exact hs.pull_yielded hyields hback hrelease hsteps hwhere hsource rfl (.start hwhere)
  | within n b i =>
    obtain ⟨hacquired, harrived, -, hget⟩ := hs.released_of_within hwhere
    have hserved := hs.tracked.served hyields hback hrelease hs.closed_eq hsource
      (by rw [hs.pending_eq, drop_deliveries]) (List.mem_of_getElem? hget) hacquired i
    rcases hrun : QueryStream.runSteps h.recorded (Decoding.recordedStep step) n b (count b - i) i
      s with ⟨result, t⟩
    rw [hrun] at hserved
    rw [ahead_of_within hwhere]
    cases hserved with
    | @item x t ht harrived hahead =>
      have hnext : QueryStream.next h.recorded s = (.item x, t) := by
        simp only [QueryStream.next, if_neg hopen, hwhere, hdecoding, hrun]
      rw [hnext, hahead]
      refine ⟨.item ht, fun n hle hlt => ?_⟩
      rw [harrived] at hlt
      exact absurd hlt (Nat.not_lt.2 hle)
    | released ht hbetween harrived hsame hnone =>
      have hnext : QueryStream.next h.recorded s =
          QueryStream.pull h.recorded t.source.pending t := by
        simp only [QueryStream.next, if_neg hopen, hwhere, hdecoding, hrun]
      have hsource' : t.source.closed = false := by
        rw [hsame]
        exact hsource
      rw [hnext, hnone, List.nil_append, ← hsame, ← harrived]
      exact ht.pull_yielded hyields hback hrelease hsteps hbetween hsource' rfl
        (.resumed hdecoding hwhere hrun)

/-! ## Calls -/

/-- **Calls hand out the items that are ahead**, one each, in order.

**Proof sketch.** Induction on the calls. A call hands out the first item, and those that are
left are ahead after it (`Open.next_yielded`). -/
lemma Open.handedOut_reached (hsteps : h.decoding = .steps count step)
    (hs : s.Open (.steps count step) (deliveries bs)) (hsource : s.source.closed = false)
    (hposition : s.position ≠ .finished) (k : Nat) :
    (handedOut h.recorded k s).1 = (s.ahead items).take k ∧
      Reached items bs (.steps count step) s (s.ahead items) k (handedOut h.recorded k s).2 := by
  induction k generalizing s with
  | zero => exact ⟨rfl, .start⟩
  | succ k ih =>
    have hyielded :=
      (hs.next_yielded hyields hback hrelease hsteps hsource hposition).1
    simp only [handedOut]
    generalize QueryStream.next h.recorded s = called at hyielded ⊢
    generalize s.ahead items = left at hyielded ⊢
    rcases called with ⟨outcome, t⟩
    cases hyielded with
    | @item x _ ht =>
      obtain ⟨hitems, hreached⟩ := ih ht.opened ht.source_open ht.position_ne
      refine ⟨?_, ?_⟩
      · rw [List.take_succ_cons, ← hitems]
      · generalize (handedOut h.recorded k t).2 = u at hreached
        cases hreached with
        | start => exact .amid (Nat.succ_pos _) ht rfl
        | amid hk hu hahead => exact .amid (Nat.succ_lt_succ hk) hu hahead
        | spent hk hu => exact .spent (Nat.succ_lt_succ hk) hu
    | spent houtcome ht =>
      have hrest := handedOut_of_spent h.recorded ht k
      cases outcome with
      | item x => exact absurd rfl (houtcome x)
      | stop =>
        simp only [hrest]
        exact ⟨rfl, .spent (Nat.succ_pos k) ht⟩
      | fail fault =>
        simp only [hrest]
        exact ⟨rfl, .spent (Nat.succ_pos k) ht⟩

end Steps

/-- **A stream that decodes is lazy and in order.** Let releasing and calling back succeed. Then the
items of any number of calls are the first items of the batches. After an item, the batches
up to the one that holds it have been pulled, and all of them but this one have been released.
Whenever a batch is pulled, all batches before it have been released, with those that have no
items.

**Proof sketch.** `Open.handedOut_reached` tells where the stream stands after the calls. Comparing
what is ahead there with all items tells the batch in progress. -/
theorem onDemand_handedOut (h : Handler ω β ι) (items : β → List ι) (bs : List β)
    (hyields : h.decoding.Yields items bs) (hback : ∀ w, (h.callback w).1 = .ok ())
    (hrelease : ∀ b ∈ bs, ∀ w, (h.releaseBatch b w).1 = .ok ()) (failure : Option Fault)
    (world : ω) (k : Nat) :
    (handedOut h.recorded k (new ⟨deliveries bs, failure, false⟩ ⟨world, []⟩)).1 =
        (bs.flatMap items).take k ∧
      OnDemand h items bs k
        (handedOut h.recorded k (new ⟨deliveries bs, failure, false⟩ ⟨world, []⟩)).2 := by
  have hopen := open_new h.decoding ⟨deliveries bs, failure, false⟩ world
  cases hmode : h.decoding with
  | raw item =>
    rw [hmode] at hyields
    exact absurd hyields id
  | steps count step =>
    rw [hmode] at hyields hopen
    have hahead : (new ⟨deliveries bs, failure, false⟩ ⟨world, []⟩ :
        QueryStream (Recorded ω (StreamRecord β)) β).ahead items = bs.flatMap items :=
      congrArg (List.flatMap items) (map_batch_deliveries bs)
    obtain ⟨hitems, hreached⟩ :=
      hopen.handedOut_reached hyields hback hrelease hmode rfl nofun k
    rw [hahead] at hitems hreached
    refine ⟨hitems, ?_, ?_, ?_⟩
    · rintro rfl
      exact ⟨rfl, rfl, rfl⟩
    · intro hpos hle
      cases hreached with
      | start => exact absurd hpos (Nat.lt_irrefl 0)
      | amid _ ht hleft => exact ht.reached hle hleft
      | spent hk _ => exact absurd hle (Nat.not_le.2 hk)
    · generalize (handedOut h.recorded k
        (new ⟨deliveries bs, failure, false⟩ ⟨world, []⟩)).2 = t at hreached
      cases hreached with
      | start => exact (hopen.next_yielded hyields hback hrelease hmode rfl nofun).2
      | amid _ ht _ =>
        exact (ht.opened.next_yielded hyields hback hrelease hmode ht.source_open
          ht.position_ne).2
      | spent _ ht =>
        intro n hle hlt
        rw [next_of_spent h.recorded ht] at hlt
        exact absurd hlt (Nat.not_lt.2 hle)

/-- The items of a batch of a script. -/
def itemsOf (b : ScriptBatch) : List Value :=
  b.steps.filterMap fun
    | .item x => some x
    | _ => none

/-- A batch without items, and one with two. -/
def sparseBatches : List ScriptBatch :=
  [⟨0, [], none, false⟩, ⟨1, [.item (.int 1), .item (.int 2)], none, false⟩]

/-- A batch without items is passed over. -/
theorem onDemand_handedOut_sparseBatches :
    let h := Script.handler ⟨0, true, true⟩
    let s := handedOut h.recorded 1
      (new ⟨deliveries sparseBatches, none, false⟩ ⟨⟨0, [0, 0], 0⟩, []⟩)
    h.decoding.Yields itemsOf sparseBatches ∧ (∀ w, (h.callback w).1 = .ok ()) ∧
      (∀ b ∈ sparseBatches, ∀ w, (h.releaseBatch b w).1 = .ok ()) ∧
      s.1 = [.int 1] ∧ OnDemand h itemsOf sparseBatches 1 s.2 ∧ s.2.arrived = 2 := by
  have hyields : (Script.handler ⟨0, true, true⟩).decoding.Yields itemsOf sparseBatches := by
    intro b hb
    simp only [sparseBatches, List.mem_cons, List.not_mem_nil, or_false] at hb
    rcases hb with rfl | rfl
    · exact ⟨rfl, nofun⟩
    · refine ⟨rfl, ?_⟩
      rintro (_ | _ | i) x hx w
      · cases hx
        rfl
      · cases hx
        rfl
      · cases hx
  have hrelease : ∀ b ∈ sparseBatches, ∀ w,
      ((Script.handler ⟨0, true, true⟩).releaseBatch b w).1 = .ok () := by
    intro b hb w
    simp only [sparseBatches, List.mem_cons, List.not_mem_nil, or_false] at hb
    rcases hb with rfl | rfl <;> rfl
  have hall := onDemand_handedOut (Script.handler ⟨0, true, true⟩) itemsOf sparseBatches hyields
    (fun _ => rfl) hrelease none ⟨0, [0, 0], 0⟩ 1
  exact ⟨hyields, fun _ => rfl, hrelease, hall.1, hall.2, rfl⟩

end QueryStream

end SeriesClient
