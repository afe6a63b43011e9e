import SeriesClient.Proofs.Json.Documents
import SeriesClient.Proofs.Text.Utf8
import SeriesClient.Query.Ticket

set_option relaxedAutoImplicit false
set_option autoImplicit false

/-!
# Tickets that read back

The bytes of a ticket are ASCII, and reading them as JSON gives the database, the query, its
language and the parameters, with their names in the order in which they were given and with their
values.

## Main definitions

* `SeriesClient.Value.IsParameter` — the values that a parameter may have.
* `SeriesClient.Value.received` — what a parameter is read back as.

## Main results

* `SeriesClient.Value.IsParameter.readsBack` — the value of a parameter is read back.
* `SeriesClient.Ticket.read_write` — a ticket is read back.
-/

namespace SeriesClient

/-- The values that a parameter may have: texts, integers, truth values and finite doubles. -/
inductive Value.IsParameter : Value → Prop where
  /-- A text. -/
  | text (s : String) : IsParameter (.text s)
  /-- An integer of any size. -/
  | int (n : Int) : IsParameter (.int n)
  /-- A truth value. -/
  | bool (b : Bool) : IsParameter (.bool b)
  /-- A double, by its bit pattern. -/
  | float {bits : Nat} (h : (Format.double.decode bits).isFinite = true) :
    IsParameter (.float (Format.double.decode bits))
  /-- A double of fixed width, by its bit pattern. -/
  | sized {bits : Nat} (h : (Format.double.decode bits).isFinite = true) :
    IsParameter (.sized (.floating .double (Format.double.decode bits)))

/-- What the value of a parameter is read back as: itself, or a plain double for one of fixed
width. -/
def Value.received : Value → Value
  | .sized (.floating .double x) => .float x
  | v => v

/-- **The value of a parameter is read back.** -/
theorem Value.IsParameter.readsBack {v : Value} (h : v.IsParameter) :
    Json.ReadsBack v v.received := by
  have hfinite : ∀ {bits : Nat}, (Format.double.decode bits).isFinite = true →
      ∃ negative m q, Format.double.decode bits = .finite negative m q ∧
        Format.double.Holds m q := by
    intro bits hbits
    rcases hx : Format.double.decode bits with _ | _ | ⟨negative, m, q⟩
    · rw [hx] at hbits
      nomatch hbits
    · rw [hx] at hbits
      nomatch hbits
    · exact ⟨negative, m, q, rfl, Format.holds_of_decode (by decide) hx⟩
  cases h with
  | text s => exact .text s
  | int n => exact .int n
  | bool b => exact .bool b
  | float hbits =>
    obtain ⟨negative, m, q, hx, hholds⟩ := hfinite hbits
    rw [hx]
    exact .float hholds negative
  | sized hbits =>
    obtain ⟨negative, m, q, hx, hholds⟩ := hfinite hbits
    rw [hx]
    exact .sized hholds negative

namespace Ticket

variable (database query queryType : String)

/-- What a ticket says, by name. -/
def content (params : List (String × Value)) : List (String × Value) :=
  [("database", .text database), ("sql_query", .text query), ("query_type", .text queryType)]
    ++ if params.isEmpty then [] else [("params", .dict (Value.named params))]

/-- A ticket as a value, by its names. -/
lemma document_eq (params : List (String × Value)) :
    (Ticket.mk (.text database) (.text query) (.text queryType) (Value.named params)).document =
      .dict (Value.named (content database query queryType params)) := by
  cases params with
  | nil => rfl
  | cons p params => rfl

/-- The names in a ticket differ. -/
lemma nodup_content (params : List (String × Value)) :
    ((content database query queryType params).map Prod.fst).Nodup := by
  cases params with
  | nil =>
    show ["database", "sql_query", "query_type"].Nodup
    decide
  | cons p params =>
    show ["database", "sql_query", "query_type", "params"].Nodup
    decide

/-- The parameters as they are read back. -/
lemma forall₂_received {params : List (String × Value)}
    (h : ∀ p ∈ params, p.2.IsParameter) :
    List.Forall₂ (fun e e' : String × Value => e.1 = e'.1 ∧ Json.ReadsBack e.2 e'.2) params
      (params.map fun p => (p.1, p.2.received)) := by
  induction params with
  | nil => exact .nil
  | cons p params ih =>
    obtain ⟨hp, hparams⟩ := List.forall_mem_cons.mp h
    exact .cons ⟨rfl, hp.readsBack⟩ (ih hparams)

/-- **A ticket is read back**: its bytes are ASCII, and as JSON they are an object with the
database, the query, its language, and the parameters if there are any.

**Proof sketch.** The values of the parameters are read back one by one, so their dictionary is, and
with it the dictionary of the ticket. -/
theorem read_write {params : List (String × Value)} (hnames : (params.map Prod.fst).Nodup)
    (hvalues : ∀ p ∈ params, p.2.IsParameter) :
    ∃ s, (Ticket.mk (.text database) (.text query) (.text queryType)
        (Value.named params)).write = .ok s ∧
      (∀ b ∈ Utf8.encode s, b < 0x80) ∧
      (Utf8.decode? (Utf8.encode s)).bind Json.parse? =
        some (.dict (Value.named (content database query queryType
          (params.map fun p => (p.1, p.2.received))))) := by
  have hparams : Json.ReadsBack (.dict (Value.named params))
      (.dict (Value.named (params.map fun p => (p.1, p.2.received)))) := by
    refine Json.ReadsBack.dict (forall₂_received hvalues) ?_
    rw [List.map_map]
    exact hnames
  have hcontent : List.Forall₂
      (fun e e' : String × Value => e.1 = e'.1 ∧ Json.ReadsBack e.2 e'.2)
      (content database query queryType params)
      (content database query queryType (params.map fun p => (p.1, p.2.received))) := by
    have hbody : ∀ {es es' : List (String × Value)},
        List.Forall₂ (fun e e' => e.1 = e'.1 ∧ Json.ReadsBack e.2 e'.2) es es' →
        List.Forall₂ (fun e e' : String × Value => e.1 = e'.1 ∧ Json.ReadsBack e.2 e'.2)
          (("database", .text database) :: ("sql_query", .text query) ::
            ("query_type", .text queryType) :: es)
          (("database", .text database) :: ("sql_query", .text query) ::
            ("query_type", .text queryType) :: es') :=
      fun h => .cons ⟨rfl, .text _⟩ (.cons ⟨rfl, .text _⟩ (.cons ⟨rfl, .text _⟩ h))
    cases params with
    | nil => exact hbody .nil
    | cons p params => exact hbody (.cons ⟨rfl, hparams⟩ .nil)
  obtain ⟨cs, hwrite, hspells⟩ := Json.ReadsBack.dict hcontent (nodup_content _ _ _ _)
  refine ⟨String.ofList cs, ?_, fun b hb => Utf8.lt_of_mem_encode (fun c hc => ?_) hb, ?_⟩
  · rw [write, document_eq, hwrite]
    rfl
  · rw [String.toList_ofList] at hc
    exact hspells.ascii c hc
  · rw [Utf8.decode?_encode, String.toList_ofList]
    exact hspells.parse?_eq

/-- A ticket with a parameter of each kind; its texts have a quote, a control character and a
character that is no part of the first plane. -/
theorem read_write_everyKind :
    ∃ s, (Ticket.mk (.text "sensors") (.text "SELECT \"a\" FROM t") (.text "sql")
        (Value.named [("room", .text "\x01😀"), ("count", .int (-12)), ("on", .bool true),
          ("rate", .float (Format.double.decode 0x3fb999999999999a))])).write = .ok s ∧
      (∀ b ∈ Utf8.encode s, b < 0x80) ∧
      (Utf8.decode? (Utf8.encode s)).bind Json.parse? =
        some (.dict (Value.named (content "sensors" "SELECT \"a\" FROM t" "sql"
          [("room", .text "\x01😀"), ("count", .int (-12)), ("on", .bool true),
            ("rate", .float (Format.double.decode 0x3fb999999999999a))]))) := by
  refine read_write "sensors" "SELECT \"a\" FROM t" "sql" (by decide) fun p hp => ?_
  simp only [List.mem_cons, List.not_mem_nil, or_false] at hp
  rcases hp with rfl | rfl | rfl | rfl
  · exact .text _
  · exact .int _
  · exact .bool _
  · exact .float (by decide)

end Ticket

end SeriesClient
