import SeriesClient.Proofs.Json.Standard
import SeriesClient.Proofs.Query.Ticket
import SeriesClient.Query.Parameters

set_option relaxedAutoImplicit false
set_option autoImplicit false

/-!
# Parameters that are accepted

Parameters are accepted by the kinds of their values, and every value of these kinds can be written.
Which tickets are documents of the standard depends on more than that: a double that is not finite
has a kind that is accepted, and its ticket is none.

## Main results

* `SeriesClient.checkParameters_eq_ok_iff` — which parameters are accepted.
* `SeriesClient.Value.exists_write_of_isSendable` — a value that is accepted can be written.
* `SeriesClient.Ticket.write_accepted` — which tickets with accepted parameters are documents of the
  standard.
-/

namespace SeriesClient

/-- Parameters are accepted by the kinds of their values. -/
theorem checkParameters_eq_ok_iff (params : List (String × Value)) :
    checkParameters (.dict (Value.named params)) = .ok () ↔
      ∀ p ∈ params, p.2.isSendable = true := by
  have hentries : (∀ e ∈ Value.named params, e.2.isSendable = true) ↔
      ∀ p ∈ params, p.2.isSendable = true := List.forall_mem_map
  rw [← hentries, ← checkEntries_eq_ok_iff]
  cases params with
  | nil => exact Iff.rfl
  | cons p params => exact Iff.rfl

/-- **A value that is accepted can be written.** -/
theorem Value.exists_write_of_isSendable {v : Value} (h : v.isSendable = true) :
    ∃ cs, Json.write v = .ok cs := by
  unfold isSendable at h
  split at h
  case h_6 => nomatch h
  all_goals exact ⟨_, rfl⟩

/-- A value that is accepted is finite unless it is a double that is not. -/
lemma Value.isFinite_iff_of_isSendable {v : Value} (h : v.isSendable = true) :
    Json.isFinite v = true ↔
      ∀ x, v = .float x ∨ v = .sized (.floating .double x) → x.isFinite = true := by
  unfold isSendable at h
  split at h
  case h_6 => nomatch h
  all_goals simp [Json.isFinite]

/-- A dictionary whose values can be written can be written, with texts as names. -/
lemma Json.exists_write_dict {entries : List (String × Value)}
    (h : ∀ e ∈ entries, ∃ cs, Json.write e.2 = .ok cs) :
    ∃ cs, Json.write (.dict (Value.named entries)) = .ok cs := by
  obtain ⟨texts, htexts⟩ : ∃ texts, Json.writeEntries (Value.named entries) = .ok texts := by
    induction entries with
    | nil => exact ⟨[], rfl⟩
    | cons e entries ih =>
      obtain ⟨⟨cs, hcs⟩, hentries⟩ := List.forall_mem_cons.mp h
      obtain ⟨texts, htexts⟩ := ih hentries
      refine ⟨(Json.quoted e.1.toList ++ ':' :: ' ' :: cs) :: texts, ?_⟩
      show Json.writeEntries ((.text e.1, e.2) :: Value.named entries) = _
      rw [Json.writeEntries, hcs, htexts]
      rfl
  refine ⟨'{' :: separated [',', ' '] texts ++ ['}'], ?_⟩
  rw [Json.write, htexts]
  rfl

namespace Ticket

variable (database query queryType : String)

/-- What holds of texts holds of all that a ticket says if it holds of its parameters. -/
lemma forall_mem_content_iff {P : Value → Prop} {params : List (String × Value)}
    (htext : ∀ s, P (.text s)) (hempty : P (.dict [])) :
    (∀ e ∈ content database query queryType params, P e.2) ↔ P (.dict (Value.named params)) := by
  cases params with
  | nil => exact ⟨fun _ => hempty, fun _ => by simp [content, htext]⟩
  | cons p params => simp [content, htext]

/-- **Tickets with accepted parameters**: each is written, and what is written is a document of the
standard exactly if no parameter is a double that is not finite.

**Proof sketch.** The kinds that are accepted can be written, so the ticket can. All of it but the
values of its parameters are texts, so its numbers are theirs. -/
theorem write_accepted {params : List (String × Value)}
    (h : checkParameters (.dict (Value.named params)) = .ok ()) :
    ∃ s, (Ticket.mk (.text database) (.text query) (.text queryType)
        (Value.named params)).write = .ok s ∧
      (Json.IsStandard s.toList ↔
        ∀ p ∈ params, ∀ x, p.2 = .float x ∨ p.2 = .sized (.floating .double x) →
          x.isFinite = true) := by
  have hsendable := (checkParameters_eq_ok_iff params).mp h
  have hparams : ∃ cs, Json.write (.dict (Value.named params)) = .ok cs :=
    Json.exists_write_dict fun p hp => Value.exists_write_of_isSendable (hsendable p hp)
  obtain ⟨cs, hcs⟩ := Json.exists_write_dict
    ((forall_mem_content_iff database query queryType
      (P := fun v => ∃ cs, Json.write v = .ok cs) (fun s => ⟨_, rfl⟩) ⟨_, rfl⟩).mpr hparams)
  refine ⟨String.ofList cs, ?_, ?_⟩
  · rw [write, document_eq, hcs]
    rfl
  · rw [String.toList_ofList, Json.write_isStandard_iff hcs, Json.isFinite_dict_named,
      forall_mem_content_iff database query queryType (P := fun v => Json.isFinite v = true)
        (fun s => rfl) rfl, Json.isFinite_dict_named]
    exact forall₂_congr fun p hp => Value.isFinite_iff_of_isSendable (hsendable p hp)

/-- A text and a finite double as parameters. -/
def finiteRate : List (String × Value) :=
  [("room", .text "kitchen"), ("rate", .float (Format.double.decode 0x3fb999999999999a))]

/-- A ticket with a finite parameter is a document of the standard. -/
theorem write_accepted_finiteRate :
    checkParameters (.dict (Value.named finiteRate)) = .ok () ∧
      ∃ s, (Ticket.mk (.text "sensors") (.text "SELECT \"a\" FROM t") (.text "sql")
        (Value.named finiteRate)).write = .ok s ∧ Json.IsStandard s.toList := by
  have haccepted : checkParameters (.dict (Value.named finiteRate)) = .ok () := rfl
  obtain ⟨s, hs, hstandard⟩ := write_accepted "sensors" "SELECT \"a\" FROM t" "sql" haccepted
  refine ⟨haccepted, s, hs, hstandard.mpr fun p hp x hx => ?_⟩
  simp only [finiteRate, List.mem_cons, List.not_mem_nil, or_false] at hp
  rcases hp with rfl | rfl
  · rcases hx with hx | hx <;> nomatch hx
  · rcases hx with hx | hx
    · obtain rfl := Value.float.inj hx
      decide
    · nomatch hx

/-- **Not all accepted parameters are sent as documents of the standard**: one that is not a number
is accepted, and its ticket has a literal that the standard does not know. -/
theorem not_standard_nanRate :
    ¬ ∀ (database query queryType : String) (params : List (String × Value)),
      checkParameters (.dict (Value.named params)) = .ok () →
        ∃ s, (Ticket.mk (.text database) (.text query) (.text queryType)
          (Value.named params)).write = .ok s ∧ Json.IsStandard s.toList := by
  intro h
  obtain ⟨s, hs, hstandard⟩ := h "d" "q" "sql" [("rate", .float .nan)] rfl
  rw [write, document_eq] at hs
  obtain ⟨cs, hcs, hs⟩ := bind_eq_ok_iff.mp hs
  obtain rfl := Except.ok.inj hs
  rw [String.toList_ofList, Json.write_isStandard_iff hcs] at hstandard
  exact Bool.false_ne_true hstandard

end Ticket

end SeriesClient
