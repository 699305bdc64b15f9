import HostingBilling.Gateway.Event
import HostingBilling.Proofs.Json.Records

/-!
# What a document tells of refunds and disputes

The object of an event is a record of the gateway. Here it is said which refunds and which dispute such an
object means: under which names their parts stand, what may be missing, and how the words of the gateway are
understood. Main statement: an event tells of a refund or a dispute exactly if its type is one that does and its
object means that.
-/

namespace HostingBilling.Gateway

open Json (Says Counts Optionally Perhaps Lists Kind Kinds Means Checks)

/-! ## The parts -/

/-- A reference means an identifier: its text, or what stands under `id` in the object. -/
inductive Refers : Json → String → Prop
  | text (s : String) : Refers (.text s) s
  | object {members : List (String × Json)} {s : String} (id : members.lookup "id" = some (.text s)) :
      Refers (.object members) s

/-- The payment intent that is referred to, if any. An empty reference refers to none. -/
inductive About : Option Json → Option IntentId → Prop
  | missing : About none none
  | null : About (some .null) none
  | empty {v : Json} (refers : Refers v "") : About (some v) none
  | intent {v : Json} {i : IntentId} (refers : Refers v i.text) (proper : "pi_".toList <+: i.text.toList) :
      About (some v) (some i)

/-- A reason is a text that is not empty. -/
inductive Reason : Option Json → Option String → Prop
  | missing : Reason none none
  | null : Reason (some .null) none
  | empty : Reason (some (.text "")) none
  | text {s : String} (filled : s ≠ "") : Reason (some (.text s)) (some s)

/-- The words for the state of a refund. -/
inductive RefundState : Option Json → RefundStatus → Prop
  | missing : RefundState none .pending
  | null : RefundState (some .null) .pending
  | succeeded : RefundState (some (.text "succeeded")) .succeeded
  | failed : RefundState (some (.text "failed")) .failed
  | canceled : RefundState (some (.text "canceled")) .failed
  | other {s : String} (unknown : s ∉ ["succeeded", "failed", "canceled"]) : RefundState (some (.text s)) .pending

/-- The words for the state of a dispute. -/
inductive DisputeState : Option Json → DisputeStatus → Prop
  | won : DisputeState (some (.text "won")) .won
  | lost : DisputeState (some (.text "lost")) .lost
  | underReview : DisputeState (some (.text "under_review")) .underReview
  | warningUnderReview : DisputeState (some (.text "warning_under_review")) .underReview
  | other {s : String} (unknown : s ∉ ["won", "lost", "under_review", "warning_under_review"]) :
      DisputeState (some (.text s)) .needsResponse

/-! ## The records -/

def refundKinds : Kinds := [
  ("id", Kind Says),
  ("amount", Kind Counts),
  ("reason", Kind (Optionally Says)),
  ("status", Kind (Optionally Says)),
  ("payment_intent", Kind (Optionally Refers))]

/-- The record of a refund. -/
structure IsRefund (v : Json) (x : Refund) : Prop where
  record : v.IsRecord refundKinds
  id : v.given refundKinds "id" = some (.text x.id)
  amount : v.given refundKinds "amount" = some (.int x.amount)
  reason : Reason (v.given refundKinds "reason") x.reason
  status : RefundState (v.given refundKinds "status") x.status

def refundListKinds : Kinds := [("data", Kind (Lists IsRefund))]

/-- The list object of some refunds, which stand under `data`, in their order. -/
inductive AreRefunds : Json → List Refund → Prop
  | none : AreRefunds (.array []) []
  | missing {members : List (String × Json)} (missing : members.lookup "data" = .none) :
      AreRefunds (.object members) []
  | data {v items : Json} {refunds : List Refund} (record : v.IsRecord refundListKinds)
      (data : v.given refundListKinds "data" = some items) (lists : Lists IsRefund items refunds) :
      AreRefunds v refunds

def chargeKinds : Kinds := [
  ("payment_intent", Kind (Optionally Refers)),
  ("refunds", Kind (Optionally AreRefunds))]

/-- The refunds that a charge comes with. -/
inductive Comprises : Option Json → List Refund → Prop
  | missing : Comprises none []
  | null : Comprises (some .null) []
  | refunds {v : Json} {refunds : List Refund} (are : AreRefunds v refunds) : Comprises (some v) refunds

def evidenceKinds : Kinds := [("due_by", Kind (Optionally Counts))]

/-- The record of the evidence of a dispute, and the second in which it is due. -/
structure IsEvidence (v : Json) (due : Option Int) : Prop where
  record : v.IsRecord evidenceKinds
  due : Perhaps Counts (v.given evidenceKinds "due_by") due

/-- When evidence is due: at a second after the start of 1970. -/
inductive Due : Option Json → Option Instant → Prop
  | missing : Due none none
  | null : Due (some .null) none
  | unsaid {v : Json} (evidence : IsEvidence v none) : Due (some v) none
  | past {v : Json} {n : Int} (evidence : IsEvidence v (some n)) (before : n ≤ 0) : Due (some v) none
  | second {v : Json} {n : Int} (evidence : IsEvidence v (some n)) (after : 0 < n) :
      Due (some v) (Instant.ofSeconds? n)

def disputeKinds : Kinds := [
  ("id", Kind Says),
  ("amount", Kind Counts),
  ("reason", Kind (Optionally Says)),
  ("status", Kind Says),
  ("payment_intent", Kind (Optionally Refers)),
  ("evidence_details", Kind (Optionally IsEvidence))]

/-- The record of a dispute. -/
structure IsDispute (v : Json) (d : Dispute) : Prop where
  record : v.IsRecord disputeKinds
  intent : About (v.given disputeKinds "payment_intent") d.intent
  id : v.given disputeKinds "id" = some (.text d.id)
  amount : v.given disputeKinds "amount" = some (.int d.amount)
  reason : Reason (v.given disputeKinds "reason") d.reason
  status : DisputeState (v.given disputeKinds "status") d.status
  evidence : Due (v.given disputeKinds "evidence_details") d.evidenceDue

/-- What stands for the object of an event. -/
def objectOf (e : GatewayEvent) : Option Json := (e.payload.member? "data").bind (Json.member? "object")

/-- What an event tells of refunds: those that a refunded charge comes with, or one that was updated. -/
inductive TellsRefunds (e : GatewayEvent) : RefundReport → Prop
  | charge {v : Json} {intent : Option IntentId} {refunds : List Refund} (kind : e.kind = "charge.refunded")
      (object : objectOf e = some v) (record : v.IsRecord chargeKinds)
      (about : About (v.given chargeKinds "payment_intent") intent)
      (comprises : Comprises (v.given chargeKinds "refunds") refunds) : TellsRefunds e ⟨intent, refunds, true⟩
  | refund {v : Json} {intent : Option IntentId} {x : Refund} (kind : e.kind = "charge.refund.updated")
      (object : objectOf e = some v) (refund : IsRefund v x)
      (about : About (v.given refundKinds "payment_intent") intent) : TellsRefunds e ⟨intent, [x], false⟩

/-- What an event tells of a dispute. -/
structure TellsDispute (e : GatewayEvent) (d : Dispute) : Prop where
  kind : e.kind ∈ ["charge.dispute.created", "charge.dispute.updated", "charge.dispute.closed"]
  object : ∃ v, objectOf e = some v ∧ IsDispute v d

/-! ## The parts are decoded -/

variable {v : Json} {o : Option Json}

theorem asReference_means : Means asReference Refers := by
  intro v s
  cases v with
  | text t => exact ⟨fun is => Except.ok.inj is ▸ .text t, fun | .text _ => rfl⟩
  | object members =>
    rw [asReference]
    constructor
    · intro is
      split at is
      · next t id =>
        cases is
        exact .object id
      · cases is
    · rintro ⟨⟩
      next id => rw [id]
  | null | bool | int | double | array => exact ⟨nofun, nofun⟩

theorem nonEmpty_text {s : String} (filled : s ≠ "") : nonEmpty (some s) = some s := by
  simp [nonEmpty, filled]

theorem reason_iff {reason : Option String} :
    (∃ raw, Perhaps Says o raw ∧ nonEmpty raw = reason) ↔ Reason o reason := by
  simp only [Json.perhaps_text]
  constructor
  · rintro ⟨_, ⟨rfl, rfl⟩ | ⟨rfl, rfl⟩ | ⟨s, rfl, rfl⟩, rfl⟩
    · exact .missing
    · exact .null
    · by_cases empty : s = ""
      · subst empty
        exact .empty
      · rw [nonEmpty_text empty]
        exact .text empty
  · rintro (_ | _ | _ | filled)
    · exact ⟨none, .inl ⟨rfl, rfl⟩, rfl⟩
    · exact ⟨none, .inr (.inl ⟨rfl, rfl⟩), rfl⟩
    · exact ⟨some "", .inr (.inr ⟨_, rfl, rfl⟩), rfl⟩
    · exact ⟨some _, .inr (.inr ⟨_, rfl, rfl⟩), nonEmpty_text filled⟩

theorem refundStatus_unknown {s : String} (unknown : s ∉ ["succeeded", "failed", "canceled"]) :
    RefundStatus.ofGateway (some s) = .pending := by
  unfold RefundStatus.ofGateway
  split <;> first | rfl | simp_all

theorem refundState_iff {state : RefundStatus} :
    (∃ raw, Perhaps Says o raw ∧ RefundStatus.ofGateway raw = state) ↔ RefundState o state := by
  simp only [Json.perhaps_text]
  constructor
  · rintro ⟨_, ⟨rfl, rfl⟩ | ⟨rfl, rfl⟩ | ⟨s, rfl, rfl⟩, rfl⟩
    · exact .missing
    · exact .null
    · by_cases known : s ∈ ["succeeded", "failed", "canceled"]
      · simp only [List.mem_cons, List.not_mem_nil, or_false] at known
        rcases known with rfl | rfl | rfl
        · exact .succeeded
        · exact .failed
        · exact .canceled
      · rw [refundStatus_unknown known]
        exact .other known
  · intro is
    cases is with
    | missing => exact ⟨none, .inl ⟨rfl, rfl⟩, rfl⟩
    | null => exact ⟨none, .inr (.inl ⟨rfl, rfl⟩), rfl⟩
    | succeeded | failed | canceled => exact ⟨some _, .inr (.inr ⟨_, rfl, rfl⟩), rfl⟩
    | other unknown => exact ⟨some _, .inr (.inr ⟨_, rfl, rfl⟩), refundStatus_unknown unknown⟩

theorem disputeStatus_unknown {s : String} (unknown : s ∉ ["won", "lost", "under_review", "warning_under_review"]) :
    DisputeStatus.ofGateway s = .needsResponse := by
  unfold DisputeStatus.ofGateway
  split <;> first | rfl | simp_all

theorem disputeState_iff {state : DisputeStatus} :
    (∃ s, o = some (.text s) ∧ DisputeStatus.ofGateway s = state) ↔ DisputeState o state := by
  constructor
  · rintro ⟨s, rfl, rfl⟩
    by_cases known : s ∈ ["won", "lost", "under_review", "warning_under_review"]
    · simp only [List.mem_cons, List.not_mem_nil, or_false] at known
      rcases known with rfl | rfl | rfl | rfl
      · exact .won
      · exact .lost
      · exact .underReview
      · exact .warningUnderReview
    · rw [disputeStatus_unknown known]
      exact .other known
  · intro is
    cases is with
    | won | lost | underReview | warningUnderReview => exact ⟨_, rfl, rfl⟩
    | other unknown => exact ⟨_, rfl, disputeStatus_unknown unknown⟩

theorem Refers.ne_null {s : String} (h : Refers v s) : v ≠ .null := by
  cases h <;> exact nofun

theorem intentOf_eq_ok {s : String} {intent : Option IntentId} (filled : s ≠ "") :
    intentOf (some s) = .ok intent ↔ "pi_".toList <+: s.toList ∧ intent = some ⟨s⟩ := by
  rw [intentOf, nonEmpty_text filled]
  dsimp only
  rw [IntentId.ofText]
  split
  · next proper =>
    refine ⟨fun is => ⟨List.isPrefixOf_iff_prefix.mp proper, (Except.ok.inj is).symm⟩, ?_⟩
    rintro ⟨-, rfl⟩
    rfl
  · next improper => exact ⟨nofun, fun is => absurd (List.isPrefixOf_iff_prefix.mpr is.1) improper⟩

theorem about_iff {intent : Option IntentId} :
    (∃ raw, Perhaps Refers o raw ∧ intentOf raw = .ok intent) ↔ About o intent := by
  constructor
  · rintro ⟨raw, _ | ⟨_ | ⟨_, refers⟩⟩, is⟩
    · cases is
      exact .missing
    · cases is
      exact .null
    · next s _ =>
      by_cases empty : s = ""
      · subst empty
        cases is
        exact .empty refers
      · obtain ⟨proper, rfl⟩ := (intentOf_eq_ok empty).mp is
        exact .intent refers proper
  · intro is
    cases is with
    | missing => exact ⟨none, .missing, rfl⟩
    | null => exact ⟨none, .given .null, rfl⟩
    | empty refers => exact ⟨some "", .given (.value refers.ne_null refers), rfl⟩
    | @intent v i refers proper =>
      have filled : i.text ≠ "" := fun empty => by
        rw [empty] at proper
        exact absurd proper (by decide)
      exact ⟨some i.text, .given (.value refers.ne_null refers), (intentOf_eq_ok filled).mpr ⟨proper, rfl⟩⟩

/-! ## The records are decoded -/

/-- A number of a record is a word, as its kind says. -/
theorem word_iff {kinds : Kinds} {name : String} {n : Int} (record : v.IsRecord kinds)
    (kind : kinds.lookup name = some (Kind Counts)) :
    (∃ x, v.given kinds name = some x ∧ Counts x n) ↔ v.given kinds name = some (.int n) := by
  constructor
  · rintro ⟨_, has, rfl, -⟩
    exact has
  · intro has
    obtain ⟨m, is, fits⟩ := record.fits has kind
    cases is
    exact ⟨_, has, rfl, fits⟩

theorem refund_checks : Checks RefundObject.shape.fields refundKinds :=
  .field Json.asText_means _ <| .field Json.asInteger_means _ <| .field Json.asText_means.asOptional _ <|
    .field Json.asText_means.asOptional _ <| .field asReference_means.asOptional _ .nil

theorem refund_eq_ok {r : RefundObject} : RefundObject.decode v = .ok r ↔ v.IsRecord refundKinds ∧
    (∃ x, v.given refundKinds "id" = some x ∧ Says x r.id) ∧
    (∃ x, v.given refundKinds "amount" = some x ∧ Counts x r.amount) ∧
    Perhaps Says (v.given refundKinds "reason") r.reason ∧
    Perhaps Says (v.given refundKinds "status") r.status ∧
    Perhaps Refers (v.given refundKinds "payment_intent") r.intent := by
  refine (Json.read_bind_eq_ok refund_checks rfl).trans (and_congr_right fun _ => ?_)
  simp only [Json.bind_eq_ok, Json.asText_means.need, Json.asInteger_means.need, Json.asText_means.optional,
    asReference_means.optional]
  constructor
  · rintro ⟨id, hasId, amount, hasAmount, reason, hasReason, status, hasStatus, intent, hasIntent, is⟩
    cases is
    exact ⟨hasId, hasAmount, hasReason, hasStatus, hasIntent⟩
  · rintro ⟨id, amount, reason, status, intent⟩
    exact ⟨_, id, _, amount, _, reason, _, status, _, intent, rfl⟩

/-- A refund is decoded with what it says of its intent. -/
theorem isRefund_iff {x : Refund} {raw : Option String} :
    (∃ r, RefundObject.decode v = .ok r ∧ r.toRefund = x ∧ r.intent = raw) ↔
      IsRefund v x ∧ Perhaps Refers (v.given refundKinds "payment_intent") raw := by
  constructor
  · rintro ⟨r, read, rfl, rfl⟩
    obtain ⟨record, ⟨_, id, rfl⟩, amount, reason, status, intent⟩ := refund_eq_ok.mp read
    refine ⟨⟨record, id, (word_iff record rfl).mp amount, ?_, ?_⟩, intent⟩
    · exact reason_iff.mp ⟨_, reason, rfl⟩
    · exact refundState_iff.mp ⟨_, status, rfl⟩
  · rintro ⟨is, intent⟩
    obtain ⟨reason, hasReason, isReason⟩ := reason_iff.mpr is.reason
    obtain ⟨status, hasStatus, isStatus⟩ := refundState_iff.mpr is.status
    refine ⟨⟨x.id, x.amount, reason, status, raw⟩, refund_eq_ok.mpr ⟨is.record, ⟨_, is.id, rfl⟩, ?_⟩, ?_, rfl⟩
    · exact ⟨(word_iff is.record rfl).mpr is.amount, hasReason, hasStatus, intent⟩
    · rw [RefundObject.toRefund, isReason, isStatus]

/-- A refund is made of what is decoded. -/
theorem refund_made {x : Refund} : (∃ r, RefundObject.decode v = .ok r ∧ r.toRefund = x) ↔ IsRefund v x := by
  constructor
  · rintro ⟨r, read, is⟩
    exact (isRefund_iff.mp ⟨r, read, is, rfl⟩).1
  · intro is
    have kind : refundKinds.lookup "payment_intent" = some (Kind (Optionally Refers)) := rfl
    obtain ⟨raw, intent⟩ := is.record.perhaps kind
    obtain ⟨r, read, made, -⟩ := isRefund_iff.mpr ⟨is, intent⟩
    exact ⟨r, read, made⟩

/-- Some decoder gives exactly what it gives. -/
theorem means_self {α : Type} (f : Json.Decoder α) : Means f fun v a => f v = .ok a := fun _ _ => Iff.rfl

theorem refunds_made {refunds : List Refund} :
    (∃ rs, Json.asList RefundObject.decode v = .ok rs ∧ rs.map RefundObject.toRefund = refunds) ↔
      Lists IsRefund v refunds := by
  rw [← Json.lists_made refund_made]
  exact exists_congr fun rs => and_congr_left fun _ => (means_self RefundObject.decode).asList v rs

theorem data_check (v : Json) : (Json.defaultedField "data" (Json.asList RefundObject.decode)).check v = .ok () ↔
    Kind (Lists IsRefund) v :=
  ((means_self _).check "data" v).trans (Json.kind_made refunds_made)

/-- A list object is a record, or it is given as a list that ends before the refunds. -/
theorem refundList_eq_ok {m : List (String × Json)} : refundList.read v = .ok m ↔
    v.IsRecord refundListKinds ∧ m = v.entries ["data"] ∨ v = .array [] ∧ m = [] := by
  cases v with
  | object members =>
    refine (Json.read_object_eq_ok (.cons data_check .nil)).trans ⟨.inl, ?_⟩
    rintro (is | ⟨⟨⟩, -⟩)
    exact is
  | array items =>
    match items with
    | [] =>
      constructor
      · intro is
        cases is
        exact .inr ⟨rfl, rfl⟩
      · rintro (⟨record, -⟩ | ⟨-, rfl⟩)
        · cases record with
          | array fit => cases fit
        · rfl
    | [x] =>
      refine (Json.bind_eq_ok (x := Json.Field.check _ x)).trans ⟨?_, ?_⟩
      · rintro ⟨_, checked, is⟩
        cases is
        exact .inl ⟨.array (.cons ((data_check x).mp checked) .nil), rfl⟩
      · rintro (⟨record, rfl⟩ | ⟨⟨⟩, -⟩)
        cases record with
        | array fit =>
          cases fit with
          | cons first _ => exact ⟨(), (data_check x).mpr first, rfl⟩
    | x :: y :: rest =>
      refine (Json.bind_eq_ok (x := Json.Field.check _ x)).trans ⟨?_, ?_⟩
      · rintro ⟨_, -, is⟩
        cases is
      · rintro (⟨record, -⟩ | ⟨⟨⟩, -⟩)
        cases record with
        | array fit =>
          cases fit with
          | cons _ more => cases more
  | null | bool | int | double | text =>
    refine ⟨nofun, ?_⟩
    rintro (⟨⟨⟩, -⟩ | ⟨⟨⟩, -⟩)

theorem areRefunds_iff {refunds : List Refund} :
    (∃ rs, asRefunds v = .ok rs ∧ rs.map RefundObject.toRefund = refunds) ↔ AreRefunds v refunds := by
  constructor
  · rintro ⟨rs, read, rfl⟩
    obtain ⟨m, list, read⟩ := Json.bind_eq_ok.mp read
    rcases refundList_eq_ok.mp list with ⟨record, rfl⟩ | ⟨rfl, rfl⟩
    · unfold Json.needOr at read
      split at read
      · next x data => exact .data record data (refunds_made.mp ⟨rs, read, rfl⟩)
      · next missing =>
        cases read
        cases record with
        | object => exact .missing missing
        | array fit =>
          cases fit with
          | cons => cases missing
    · cases read
      exact .none
  · intro is
    cases is with
    | none => exact ⟨[], rfl, rfl⟩
    | @missing members missing =>
      have record : (Json.object members).IsRecord refundListKinds := by
        refine .object fun m hm kind is => ?_
        have other : (m.1 == "data") = false := beq_eq_false_iff_ne.mpr fun same => by
          simpa [same] using List.lookup_eq_none_iff.mp missing m hm
        rw [refundListKinds, List.lookup_cons, other] at is
        cases is
      refine ⟨[], Json.bind_eq_ok.mpr ⟨_, refundList_eq_ok.mpr (.inl ⟨record, rfl⟩), ?_⟩, rfl⟩
      rw [Json.needOr, show ((Json.object members).entries ["data"]).lookup "data" = .none from missing]
    | data record data lists =>
      obtain ⟨rs, read, made⟩ := refunds_made.mpr lists
      refine ⟨rs, Json.bind_eq_ok.mpr ⟨_, refundList_eq_ok.mpr (.inl ⟨record, rfl⟩), ?_⟩, made⟩
      rw [Json.needOr, show (v.entries ["data"]).lookup "data" = some _ from data]
      exact read

theorem comprises_iff {refunds : List Refund} :
    (∃ raw, Perhaps (fun v rs => asRefunds v = .ok rs) o raw ∧ (raw.getD []).map RefundObject.toRefund = refunds) ↔
      Comprises o refunds := by
  constructor
  · rintro ⟨_, _ | ⟨_ | ⟨_, read⟩⟩, rfl⟩
    · exact .missing
    · exact .null
    · exact .refunds (areRefunds_iff.mp ⟨_, read, rfl⟩)
  · rintro (_ | _ | are)
    · exact ⟨none, .missing, rfl⟩
    · exact ⟨none, .given .null, rfl⟩
    · obtain ⟨rs, read, made⟩ := areRefunds_iff.mpr are
      refine ⟨some rs, .given (.value ?_ read), made⟩
      rintro rfl
      cases read

theorem charge_checks : Checks ChargeObject.shape.fields chargeKinds := by
  refine .field asReference_means.asOptional _ (.cons (fun v => ?_) .nil)
  refine ((means_self asRefunds).asOptional.check "refunds" v).trans ?_
  exact Json.kind_made (Json.optionally_made areRefunds_iff)

theorem charge_eq_ok {c : ChargeObject} : ChargeObject.decode v = .ok c ↔ v.IsRecord chargeKinds ∧
    Perhaps Refers (v.given chargeKinds "payment_intent") c.intent ∧
    Perhaps (fun v rs => asRefunds v = .ok rs) (v.given chargeKinds "refunds") c.refunds := by
  refine (Json.read_bind_eq_ok charge_checks rfl).trans (and_congr_right fun _ => ?_)
  simp only [Json.bind_eq_ok, asReference_means.optional, (means_self asRefunds).optional]
  constructor
  · rintro ⟨intent, hasIntent, refunds, hasRefunds, is⟩
    cases is
    exact ⟨hasIntent, hasRefunds⟩
  · rintro ⟨intent, refunds⟩
    exact ⟨_, intent, _, refunds, rfl⟩

theorem evidence_means : Means asEvidence IsEvidence := by
  intro v due
  have checks : Checks evidence.fields evidenceKinds := .field Json.asInteger_means.asOptional _ .nil
  refine (Json.read_bind_eq_ok checks rfl).trans ?_
  rw [Json.asInteger_means.optional]
  exact ⟨fun is => ⟨is.1, is.2⟩, fun is => ⟨is.record, is.due⟩⟩

theorem IsEvidence.ne_null {due : Option Int} (h : IsEvidence v due) : v ≠ .null := by
  rintro rfl
  cases h.record

theorem due_iff {due : Option Instant} :
    (∃ raw : Option (Option Int), Perhaps IsEvidence o raw ∧
      (raw.bind fun due => due.filter (0 < ·)).bind Instant.ofSeconds? = due) ↔ Due o due := by
  constructor
  · rintro ⟨_, _ | ⟨_ | ⟨_, evidence⟩⟩, rfl⟩
    · exact .missing
    · exact .null
    · next n _ =>
      cases n with
      | none => exact .unsaid evidence
      | some n =>
        by_cases after : 0 < n
        · have is : ((some (some n)).bind fun due => due.filter (0 < ·)) = some n := by
            simp [Option.filter_some, after]
          rw [is]
          exact .second evidence after
        · have is : ((some (some n)).bind fun due => due.filter (0 < ·)) = none := by
            simp [Option.filter_some, after]
          rw [is]
          exact .past evidence (Int.not_lt.mp after)
  · rintro (_ | _ | evidence | ⟨evidence, before⟩ | ⟨evidence, after⟩)
    · exact ⟨none, .missing, rfl⟩
    · exact ⟨none, .given .null, rfl⟩
    · exact ⟨some none, .given (.value evidence.ne_null evidence), rfl⟩
    · refine ⟨some (some _), .given (.value evidence.ne_null evidence), ?_⟩
      simp [Option.filter_some, Int.not_lt.mpr before]
    · refine ⟨some (some _), .given (.value evidence.ne_null evidence), ?_⟩
      simp [Option.filter_some, after]

theorem dispute_checks : Checks DisputeObject.shape.fields disputeKinds :=
  .field Json.asText_means _ <| .field Json.asInteger_means _ <| .field Json.asText_means.asOptional _ <|
    .field Json.asText_means _ <| .field asReference_means.asOptional _ <|
    .field evidence_means.asOptional _ .nil

theorem dispute_eq_ok {d : DisputeObject} : DisputeObject.decode v = .ok d ↔ v.IsRecord disputeKinds ∧
    (∃ x, v.given disputeKinds "id" = some x ∧ Says x d.id) ∧
    (∃ x, v.given disputeKinds "amount" = some x ∧ Counts x d.amount) ∧
    Perhaps Says (v.given disputeKinds "reason") d.reason ∧
    (∃ x, v.given disputeKinds "status" = some x ∧ Says x d.status) ∧
    Perhaps Refers (v.given disputeKinds "payment_intent") d.intent ∧
    Perhaps IsEvidence (v.given disputeKinds "evidence_details") d.evidence := by
  refine (Json.read_bind_eq_ok dispute_checks rfl).trans (and_congr_right fun _ => ?_)
  simp only [Json.bind_eq_ok, Json.asText_means.need, Json.asInteger_means.need, Json.asText_means.optional,
    asReference_means.optional, evidence_means.optional]
  constructor
  · rintro ⟨id, hasId, amount, hasAmount, reason, hasReason, status, hasStatus, intent, hasIntent, evidence,
      hasEvidence, is⟩
    cases is
    exact ⟨hasId, hasAmount, hasReason, hasStatus, hasIntent, hasEvidence⟩
  · rintro ⟨id, amount, reason, status, intent, evidence⟩
    exact ⟨_, id, _, amount, _, reason, _, status, _, intent, _, evidence, rfl⟩

theorem dispute_made {d : Dispute} :
    (∃ raw, DisputeObject.decode v = .ok raw ∧ raw.toDispute = .ok d) ↔ IsDispute v d := by
  constructor
  · rintro ⟨raw, read, made⟩
    obtain ⟨record, ⟨_, id, rfl⟩, amount, reason, ⟨_, status, rfl⟩, intent, evidence⟩ := dispute_eq_ok.mp read
    obtain ⟨i, about, made⟩ := Json.bind_eq_ok.mp made
    cases made
    exact ⟨record, about_iff.mp ⟨_, intent, about⟩, id, (word_iff record rfl).mp amount,
      reason_iff.mp ⟨_, reason, rfl⟩, disputeState_iff.mp ⟨_, status, rfl⟩, due_iff.mp ⟨_, evidence, rfl⟩⟩
  · intro is
    obtain ⟨intent, refers, about⟩ := about_iff.mpr is.intent
    obtain ⟨reason, hasReason, isReason⟩ := reason_iff.mpr is.reason
    obtain ⟨status, hasStatus, isStatus⟩ := disputeState_iff.mpr is.status
    obtain ⟨evidence, hasEvidence, isDue⟩ := due_iff.mpr is.evidence
    refine ⟨⟨d.id, d.amount, reason, status, intent, evidence⟩, dispute_eq_ok.mpr
      ⟨is.record, ⟨_, is.id, rfl⟩, (word_iff is.record rfl).mpr is.amount, hasReason, ⟨_, hasStatus, rfl⟩,
        refers, hasEvidence⟩, Json.bind_eq_ok.mpr ⟨_, about, ?_⟩⟩
    rw [isReason, isStatus, isDue]
    rfl

/-! ## Events -/

variable {e : GatewayEvent}

theorem object_eq_ok {α : Type} {decode : Json.Decoder α} {a : α} :
    e.object decode = .ok a ↔ ∃ v, objectOf e = some v ∧ decode v = .ok a := by
  have path : Json.at? ["data", "object"] e.payload = objectOf e := by simp [Json.at?, objectOf]
  rw [GatewayEvent.object, path]
  cases objectOf e with
  | none => exact ⟨nofun, fun ⟨_, absent, _⟩ => nomatch absent⟩
  | some v =>
    refine Iff.trans ?_ ⟨fun read => ⟨v, rfl, read⟩, fun ⟨_, is, read⟩ => Option.some.inj is ▸ read⟩
    dsimp only
    cases decode v with
    | error text => exact ⟨nofun, nofun⟩
    | ok a => exact ⟨fun is => Except.ok.inj is ▸ rfl, fun is => Except.ok.inj is ▸ rfl⟩

/-- What is made of a decoded object is told as it is. -/
theorem told_iff {α β : Type} {decode : Json.Decoder α} {build : α → Except Failure β} {tell : β → Notification}
    (injective : ∀ {b b'}, tell b = tell b' → b = b') {b : β} :
    (do return tell (← build (← e.object decode))) = Except.ok (tell b) ↔
      ∃ v, objectOf e = some v ∧ ∃ a, decode v = .ok a ∧ build a = .ok b := by
  simp only [Json.bind_eq_ok, object_eq_ok]
  constructor
  · rintro ⟨a, ⟨v, object, read⟩, b', built, is⟩
    obtain rfl := injective (Except.ok.inj is)
    exact ⟨v, object, a, read, built⟩
  · rintro ⟨v, object, a, read, built⟩
    exact ⟨a, ⟨v, object, read⟩, b, built, rfl⟩

theorem charge_report_iff {r : RefundReport} :
    (∃ c, ChargeObject.decode v = .ok c ∧ c.toReport = .ok r) ↔ v.IsRecord chargeKinds ∧
      ∃ intent refunds, About (v.given chargeKinds "payment_intent") intent ∧
        Comprises (v.given chargeKinds "refunds") refunds ∧ r = ⟨intent, refunds, true⟩ := by
  constructor
  · rintro ⟨c, read, made⟩
    obtain ⟨record, intent, refunds⟩ := charge_eq_ok.mp read
    obtain ⟨i, about, made⟩ := Json.bind_eq_ok.mp made
    cases made
    exact ⟨record, i, _, about_iff.mp ⟨_, intent, about⟩, comprises_iff.mp ⟨_, refunds, rfl⟩, rfl⟩
  · rintro ⟨record, intent, refunds, names, comprises, rfl⟩
    obtain ⟨reference, refers, about⟩ := about_iff.mpr names
    obtain ⟨rs, lists, rfl⟩ := comprises_iff.mpr comprises
    exact ⟨⟨reference, rs⟩, charge_eq_ok.mpr ⟨record, refers, lists⟩, Json.bind_eq_ok.mpr ⟨_, about, rfl⟩⟩

theorem refund_report_iff {r : RefundReport} :
    (∃ x, RefundObject.decode v = .ok x ∧ x.toReport = .ok r) ↔ ∃ x intent, IsRefund v x ∧
      About (v.given refundKinds "payment_intent") intent ∧ r = ⟨intent, [x], false⟩ := by
  constructor
  · rintro ⟨x, read, made⟩
    obtain ⟨i, about, made⟩ := Json.bind_eq_ok.mp made
    cases made
    obtain ⟨is, intent⟩ := isRefund_iff.mp ⟨x, read, rfl, rfl⟩
    exact ⟨_, i, is, about_iff.mp ⟨_, intent, about⟩, rfl⟩
  · rintro ⟨x, intent, is, names, rfl⟩
    obtain ⟨reference, refers, about⟩ := about_iff.mpr names
    obtain ⟨raw, read, rfl, rfl⟩ := isRefund_iff.mpr ⟨is, refers⟩
    exact ⟨raw, read, Json.bind_eq_ok.mpr ⟨_, about, rfl⟩⟩

/-- **What an event tells of refunds is what its document means.** -/
theorem parse_refund_iff {r : RefundReport} : e.parse = .ok (.refund r) ↔ TellsRefunds e r := by
  have injective {r r' : RefundReport} (same : Notification.refund r = .refund r') : r = r' := by
    cases same
    rfl
  constructor
  · intro told
    unfold GatewayEvent.parse at told
    split at told
    case h_3 kind =>
      obtain ⟨v, object, read⟩ := (told_iff injective).mp told
      obtain ⟨record, intent, refunds, about, comprises, rfl⟩ := charge_report_iff.mp read
      exact .charge kind object record about comprises
    case h_4 kind =>
      obtain ⟨v, object, read⟩ := (told_iff injective).mp told
      obtain ⟨x, intent, is, about, rfl⟩ := refund_report_iff.mp read
      exact .refund kind object is about
    case h_8 => cases told
    all_goals
      obtain ⟨_, -, told⟩ := Json.bind_eq_ok.mp told
      obtain ⟨_, -, told⟩ := Json.bind_eq_ok.mp told
      cases told
  · intro tells
    cases tells with
    | charge kind object record about comprises =>
      unfold GatewayEvent.parse
      rw [kind]
      exact (told_iff injective).mpr ⟨_, object, charge_report_iff.mpr ⟨record, _, _, about, comprises, rfl⟩⟩
    | refund kind object is about =>
      unfold GatewayEvent.parse
      rw [kind]
      exact (told_iff injective).mpr ⟨_, object, refund_report_iff.mpr ⟨_, _, is, about, rfl⟩⟩

/-- **What an event tells of a dispute is what its document means.** -/
theorem parse_dispute_iff {d : Dispute} : e.parse = .ok (.dispute d) ↔ TellsDispute e d := by
  have injective {d d' : Dispute} (same : Notification.dispute d = .dispute d') : d = d' := by
    cases same
    rfl
  have told : GatewayEvent.parse.dispute e = .ok (.dispute d) ↔ ∃ v, objectOf e = some v ∧ IsDispute v d :=
    (told_iff injective).trans (exists_congr fun v => and_congr_right fun _ => dispute_made)
  constructor
  · intro tells
    unfold GatewayEvent.parse at tells
    split at tells
    case h_5 kind => exact ⟨by simp [kind], told.mp tells⟩
    case h_6 kind => exact ⟨by simp [kind], told.mp tells⟩
    case h_7 kind => exact ⟨by simp [kind], told.mp tells⟩
    case h_8 => cases tells
    all_goals
      obtain ⟨_, -, tells⟩ := Json.bind_eq_ok.mp tells
      obtain ⟨_, -, tells⟩ := Json.bind_eq_ok.mp tells
      cases tells
  · rintro ⟨kind, object⟩
    simp only [List.mem_cons, List.not_mem_nil, or_false] at kind
    unfold GatewayEvent.parse
    rcases kind with kind | kind | kind <;>
    · rw [kind]
      exact told.mpr object

end HostingBilling.Gateway
