import SeriesClient.Proofs.Client.Writing

set_option relaxedAutoImplicit false
set_option autoImplicit false

/-!
# What a write delivers

A write that succeeds has sent a line for each of its entries, in a request whose reply told of
success. The exceptions are entries that have no line: they are left out of the request, and if
there is nothing else, there is no request.

## Main definitions

* `SeriesClient.Request.Carries` — the body of a request has a line for an entry.

## Main results

* `SeriesClient.Entry.exists_line_of_encode` — each entry that has a line finds it in the text.
* `SeriesClient.Client.write_of_blank` — nothing is sent for entries without a line.
* `SeriesClient.Client.write_cases` — what a write sends, and what its success means.
-/

namespace SeriesClient

/-! ## Lines of entries -/

namespace Entry

variable {e : Entry} {precision defaults : Value} {entries : List Entry}

/-- What entries come to has a line for each of them, if the entry has one. -/
theorem exists_line_of_encode {lines : List Char}
    (h : encode precision defaults entries = .ok lines) (he : e ∈ entries) :
    e.IsBlank ∨ ∃ line above below, e.line precision defaults = .ok line ∧ line ≠ [] ∧
      lines = List.intercalate ['\n'] (above ++ line :: below) := by
  obtain ⟨texts, htexts, h⟩ := bind_eq_ok_iff.mp h
  obtain ⟨line, hmem, hline⟩ :=
    exists_mem_of_forall₂ (forall₂_of_mapM_eq_ok (fun _ _ _ h => h) htexts).flip e he
  by_cases hempty : line = []
  · exact .inl ((line_eq_nil_iff hline).mp hempty)
  · have hkept : line ∈ texts.filter fun text => !text.isEmpty :=
      List.mem_filter.mpr ⟨hmem, by simpa using hempty⟩
    obtain ⟨above, below, hsplit⟩ := List.append_of_mem hkept
    rw [hsplit] at h
    exact .inr ⟨line, above, below, hline, hempty, (Except.ok.inj h).symm⟩

/-- Entries come to nothing if they have no lines. -/
lemma encode_eq_nil_iff {lines : List Char}
    (h : encode precision defaults entries = .ok lines) :
    lines = [] ↔ ∀ e ∈ entries, e.IsBlank := by
  refine ⟨fun hempty e he => ?_, fun hblank => ?_⟩
  · rcases exists_line_of_encode h he with hblank | ⟨line, above, below, -, hne, rfl⟩
    · exact hblank
    · rcases above with _ | ⟨first, above⟩
      · rcases below with _ | ⟨second, below⟩
        · exact absurd (List.intercalate_singleton.symm.trans hempty) hne
        · simp [List.intercalate_cons_cons] at hempty
      · rcases above with _ | ⟨second, above⟩ <;> simp [List.intercalate_cons_cons] at hempty
  · obtain ⟨texts, htexts, h⟩ := bind_eq_ok_iff.mp h
    have hlines := forall₂_of_mapM_eq_ok (P := fun e text => e.line precision defaults = .ok text ∧
      e.IsBlank) (fun e he _ h => ⟨h, hblank e he⟩) htexts
    have hnone : (texts.filter fun text => !text.isEmpty) = [] := by
      refine List.filter_eq_nil_iff.mpr fun text htext => ?_
      obtain ⟨e, -, hline, he⟩ := exists_mem_of_forall₂ hlines text htext
      simp [(line_eq_nil_iff hline).mpr he]
    rw [hnone] at h
    exact (Except.ok.inj h).symm

end Entry

/-! ## Requests -/

/-- The body of a request has a line for an entry, in the unit and with the default tags that the
options and the client come to. -/
def Request.Carries (request : Request) (config : ClientConfig) (options : WriteOptions)
    (e : Entry) : Prop :=
  ∃ unit tags line above below, options.precisionOf config = .ok unit ∧
    options.defaultTagsOf config = .ok tags ∧
    e.line (.precision unit) (.dict tags.entries) = .ok line ∧ line ≠ [] ∧
    request.body.toList = List.intercalate ['\n'] (above ++ line :: below)

namespace Client

variable (c : Client) (options : WriteOptions) (net : Network) {data : Entries}
  {entries : List Entry}

/-- **Nothing is sent for entries without a line**, and the write succeeds. -/
theorem write_of_blank {unit : Precision} {tags : OrderedMap Value Value} {lines : List Char}
    (hopen : c.closed = false)
    (hdatabase : (options.databaseOf c.config).truthy = true)
    (hdata : data.toList = .ok entries) (hunit : options.precisionOf c.config = .ok unit)
    (htags : options.defaultTagsOf c.config = .ok tags)
    (hlines : Entry.encode (.precision unit) (.dict tags.entries) entries = .ok lines)
    (hblank : ∀ e ∈ entries, e.IsBlank) : c.write options data net =
      (.ok (), net.note (.warn "No data to write, please check your input data.")) := by
  obtain rfl := (Entry.encode_eq_nil_iff hlines).mpr hblank
  have hplan : WritePlan.ofEntries c.config options data = .ok none := by
    unfold WritePlan.ofEntries
    simp only [hdatabase, hunit, htags, hdata, hlines, Bool.not_true, Bool.false_eq_true, if_false,
      bind, Except.bind, List.isEmpty_nil, if_true]
    rfl
  simp [write, checkOpen, hopen, hplan]

/-- A plan is sent with one request, whose reply is one of success if the write succeeds; or nothing
is sent, and the write fails. -/
lemma send_cases (plan : WritePlan) :
    (∃ notices fault, c.send plan net = (.error fault, { net with notices })) ∨
      ∃ request notices, (c.send plan net).2 = net.sent request notices ∧
        request.method = "POST" ∧ request.body = plan.body ∧
        ((c.send plan net).1 = .ok () → net.reply.isSuccess = true) := by
  rcases hfields : HeaderList.ofEntries plan.headers.entries with fault | fields
  · rw [send, Session.request_of_unsendable hfields]
    exact .inl ⟨_, _, rfl⟩
  · by_cases hclosed : c.session.closed = true
    · rw [send, Session.request_of_closed hfields hclosed]
      exact .inl ⟨_, _, rfl⟩
    · rw [Bool.not_eq_true] at hclosed
      obtain ⟨notices, hsend⟩ := send_of_fields net plan hclosed hfields
      rw [hsend]
      refine .inr ⟨_, notices, rfl, rfl, rfl, fun hok => ?_⟩
      rcases houtcome : net.reply.outcome.1 with fault | r
      · rw [houtcome] at hok
        cases hok
      · exact Reply.isSuccess_of_outcome houtcome

/-- **What a write sends, and what its success means.** Either nothing is sent, and the write
succeeds only if none of its entries has a line. Or one request is sent, and the write succeeds only
if the reply is one of success; the request then has a line for each entry that has one.

**Proof sketch.** A write is planned from the lines of its entries (`WritePlan.exists_of_ofEntries`)
and sent as planned (`send_cases`). -/
theorem write_cases (hdata : data.toList = .ok entries) :
    (∃ notices, (c.write options data net).2 = { net with notices } ∧
      ((c.write options data net).1 = .ok () → ∀ e ∈ entries, e.IsBlank)) ∨
    ∃ request notices, (c.write options data net).2 = net.sent request notices ∧
      request.method = "POST" ∧
      ((c.write options data net).1 = .ok () → net.reply.isSuccess = true ∧
        ∀ e ∈ entries, e.IsBlank ∨ request.Carries c.config options e) := by
  unfold write
  split
  · exact .inl ⟨_, rfl, nofun⟩
  · split
    · exact .inl ⟨_, rfl, nofun⟩
    · next hplan =>
      obtain ⟨unit, tags, entries', lines, -, -, hentries, hlines, hplan⟩ :=
        WritePlan.exists_of_ofEntries hplan
      obtain rfl := Except.ok.inj (hdata.symm.trans hentries)
      obtain ⟨-, hempty⟩ | ⟨plan, call, hsome, -⟩ := hplan
      · exact .inl ⟨_, rfl, fun _ => (Entry.encode_eq_nil_iff hlines).mp hempty⟩
      · cases hsome
    · next plan hplan =>
      obtain ⟨unit, tags, entries', lines, hunit, htags, hentries, hlines, hplan⟩ :=
        WritePlan.exists_of_ofEntries hplan
      obtain rfl := Except.ok.inj (hdata.symm.trans hentries)
      obtain ⟨hnone, -⟩ | ⟨plan', call, hsome, -, hplanned, -⟩ := hplan
      · cases hnone
      · obtain rfl := Option.some.inj hsome
        rcases c.send_cases net plan with
          ⟨notices, fault, hsend⟩ | ⟨request, notices, hsend, hpost, hbody, hsuccess⟩
        · rw [hsend]
          exact .inl ⟨notices, rfl, nofun⟩
        · refine .inr ⟨request, notices, hsend, hpost, fun hok => ⟨hsuccess hok, fun e he => ?_⟩⟩
          refine (Entry.exists_line_of_encode hlines he).imp_right ?_
          rintro ⟨line, above, below, hline, hne, rfl⟩
          refine ⟨unit, tags, line, above, below, hunit, htags, hline, hne, ?_⟩
          rw [hbody, hplanned, String.toList_ofList]

end Client

end SeriesClient
