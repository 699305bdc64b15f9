import HostingBilling.Http
import HostingBilling.Proofs.Jobs.Commitment

/-!
# Refused requests

An answer from 400 to 499 blames the request. A request is blamed before anything has been written, or by a
transaction whose writes are undone; what fails after that is answered with 500. So a refused request leaves
the world as it was, but for identifiers and faults that were used up on the way. Unsigned posts to the
webhook and requests to an operator's triggers without the token are always refused.
-/

namespace HostingBilling

open Http (Request Response Site)

/-- The status blames the request. -/
def Http.IsRefusal (status : Nat) : Prop := 400 ≤ status ∧ status < 500

/-- The failure is answered with a status that blames the request. -/
def Failure.IsRefusal (e : Failure) : Prop := Http.IsRefusal e.response.status

/-- The same world, but for identifiers and faults that were used up. -/
def World.Untouched (w w' : World) : Prop :=
  ∃ nextId faults, w' = { w with nextId := nextId, faults := faults }

namespace World.Untouched

theorem refl (w : World) : w.Untouched w := ⟨_, _, rfl⟩

theorem trans {a b c : World} (first : a.Untouched b) (rest : b.Untouched c) : a.Untouched c := by
  obtain ⟨_, _, rfl⟩ := first
  obtain ⟨_, _, rfl⟩ := rest
  exact ⟨_, _, rfl⟩

end World.Untouched

namespace Action

variable {α β : Type} {a : Action α} {f : α → Action β}

/-- Whatever comes of the action, it changes nothing. -/
def Reads (a : Action α) : Prop := ∀ w : World, w.Untouched (a.run w).2

/-- No failure of the action blames the request. -/
def Internal (a : Action α) : Prop := ∀ w e, (a.run w).1 = .error e → ¬ e.IsRefusal

/-- When the action fails and blames the request, it has changed nothing. -/
def Refuses (a : Action α) : Prop :=
  ∀ (w : World) e, (a.run w).1 = .error e → e.IsRefusal → w.Untouched (a.run w).2

namespace Reads

theorem pure (x : α) : (Pure.pure x : Action α).Reads := fun w => World.Untouched.refl w

theorem throw (e : Failure) : (MonadExcept.throw e : Action α).Reads := fun w => World.Untouched.refl w

theorem now : Action.now.Reads := fun w => World.Untouched.refl w

theorem ofExcept (x : Except Failure α) : (Action.ofExcept x).Reads := by
  cases x
  · exact throw _
  · exact pure _

theorem ask (s : Statement) (f : Instant → Store → α) : (HostingBilling.ask s f).Reads := by
  intro w
  unfold HostingBilling.ask execute run
  dsimp only
  split <;> exact ⟨_, _, rfl⟩

theorem bind (first : a.Reads) (rest : ∀ x, (f x).Reads) : (a >>= f).Reads := by
  intro w
  have here := first w
  rw [run_bind]
  rcases ran : a.run w with ⟨e | x, w'⟩ <;> rw [ran] at here
  · exact here
  · exact here.trans (rest x w')

end Reads

namespace Internal

theorem pure (x : α) : (Pure.pure x : Action α).Internal := fun _ _ failed => nomatch failed

theorem throw {e : Failure} (ours : ¬ e.IsRefusal) : (MonadExcept.throw e : Action α).Internal := by
  intro w e' failed
  cases failed
  exact ours

theorem total (h : a.Total) : a.Internal := by
  intro w e failed
  obtain ⟨x, w', ran⟩ := h w
  rw [ran] at failed
  cases failed

/-- What the database refuses is no fault of the request. -/
theorem execute (s : Statement) (f : Instant → Store → Except DatabaseFailure (α × Store)) :
    (HostingBilling.execute s f).Internal := by
  intro w e failed
  have database {cause : DatabaseFailure} : ¬ (Failure.database cause).IsRefusal := by
    simp [Failure.IsRefusal, Http.IsRefusal, Failure.response, Failure.face]
  unfold HostingBilling.execute run at failed
  dsimp only at failed
  split at failed
  · cases failed
    exact database
  · split at failed
    · cases failed
    · cases failed
      exact database

theorem bind (first : a.Internal) (rest : ∀ x, (f x).Internal) : (a >>= f).Internal := by
  intro w e failed
  rw [run_bind] at failed
  rcases ran : a.run w with ⟨e' | x, w'⟩ <;> rw [ran] at failed
  · cases failed
    exact first w e (by rw [ran])
  · exact rest x w' e failed

theorem ite {c : Prop} [Decidable c] {b : Action α} (ha : a.Internal) (hb : b.Internal) :
    (if c then a else b).Internal := by
  split
  · exact ha
  · exact hb

end Internal

namespace Refuses

theorem of_internal (h : a.Internal) : a.Refuses := fun w e failed blames => absurd blames (h w e failed)

/-- A transaction that fails is undone. -/
theorem transaction (plain : a.Plain) : (HostingBilling.transaction a).Refuses := by
  intro w e failed _
  obtain ⟨store, nextId, faults, left⟩ := plain.frame w
  rw [run_transaction] at failed ⊢
  rcases ran : a.run w with ⟨e' | x, w'⟩
  · rw [ran] at left
    obtain rfl : w' = _ := left
    exact ⟨nextId, faults, rfl⟩
  · rw [ran] at failed
    cases failed

theorem after (first : a.Reads) (rest : ∀ x, (f x).Refuses) : (a >>= f).Refuses := by
  intro w e failed blames
  have here := first w
  rw [run_bind] at failed ⊢
  rcases ran : a.run w with ⟨e' | x, w'⟩ <;> rw [ran] at here failed
  · exact here
  · exact here.trans (rest x w' e failed blames)

theorem before (first : a.Refuses) (rest : ∀ x, (f x).Internal) : (a >>= f).Refuses := by
  intro w e failed blames
  have here := first w e
  rw [run_bind] at failed ⊢
  rcases ran : a.run w with ⟨e' | x, w'⟩ <;> rw [ran] at here failed
  · exact here (congrArg _ (Except.error.inj failed)) blames
  · exact absurd blames (rest x w' e failed)

theorem ite {c : Prop} [Decidable c] {b : Action α} (ha : a.Refuses) (hb : b.Refuses) :
    (if c then a else b).Refuses := by
  split
  · exact ha
  · exact hb

end Refuses

end Action

/-! ## What the routes do -/

open HostingBilling.Action (Internal Reads Refuses)

theorem Ledger.claim_internal (e : GatewayEvent) : (claim e).Internal := by
  refine .bind (fun _ _ failed => nomatch failed) fun id => .bind (.execute _ _) fun claimed => ?_
  exact .ite (.bind (.execute _ _) fun _ => .pure _) (.pure _)

namespace Delivery

/-- Once an event has been claimed, its failures are reported as the event's. -/
theorem conclude_internal (e : GatewayEvent) (row : Uuid) (result : Except Failure DeliveryOutcome) :
    (conclude e row result).Internal := by
  cases result with
  | ok outcome => exact .bind (.execute _ _) fun _ => .pure _
  | error failure =>
    refine .bind (.total (.attempt _)) fun _ => .throw ?_
    simp [Failure.IsRefusal, Http.IsRefusal, Failure.response, Failure.face]

theorem process_refuses (o : Outside) (e : GatewayEvent) : (process o e).Refuses := by
  refine .after (.ofExcept _) fun notification => .of_internal (.bind (Ledger.claim_internal e) ?_)
  rintro (_ | row)
  · exact .pure _
  · exact .bind (.total (.attempt _)) fun _ => conclude_internal e row _

end Delivery

theorem CommittedJob.submitAll_internal (o : Outside) (tasks : List CommittedJob) :
    (submitAll o tasks).Internal := by
  refine .bind (.total (submitEach_total o tasks)) fun _ => .ite (.pure _) (.throw ?_)
  simp [Failure.IsRefusal, Http.IsRefusal, Failure.response, Failure.face]

theorem Services.require_reads (id : Uuid) : (require id).Reads := by
  refine .bind (.ask _ _) ?_
  rintro (_ | detail)
  · exact .throw _
  · exact .pure _

theorem Reprovision.service_refuses (o : Outside) (id : Uuid) : (service o id).Refuses := by
  refine .after (Services.require_reads id) fun detail => .before (.transaction (prepare_plain detail)) ?_
  exact fun task => .bind (CommittedJob.submitAll_internal o [task]) fun _ => .pure _

theorem Settings.reload_internal : reload.Internal :=
  .bind (.execute _ _) fun _ _ _ failed => nomatch failed

/-! ## Signatures and tokens -/

/-- The header signs the body: it names a time within five minutes of now, and the digest of that time and the
body under the secret. -/
def Gateway.Signs (secret : String) (now : Int) (header body : String) : Prop :=
  ∃ t v1 time, headerPart? header "t" = some t ∧ headerPart? header "v1" = some v1 ∧
    Text.signed? t = some time ∧ hexBytes? v1.toList = some (signatureOf secret time body) ∧
    (now - time).natAbs ≤ tolerance

theorem Gateway.signs_iff (secret : String) (now : Int) (header body : String) :
    checkSignature now body header secret = .ok () ↔ Signs secret now header body := by
  unfold checkSignature Signs
  cases headerPart? header "t" with
  | none => simp
  | some t =>
    cases headerPart? header "v1" with
    | none => simp
    | some v1 =>
      cases found : Text.signed? t with
      | none => simp [found]
      | some time =>
        cases given : hexBytes? v1.toList with
        | none => simp [found, given]
        | some bytes =>
          by_cases same : bytes = signatureOf secret time body
          · by_cases late : tolerance < |now - time|
            · simp [found, given, same, late]
            · simp [found, given, same, late, not_lt.mp late, pure, Except.pure]
          · simp [found, given, same, bind, Except.bind]

namespace Text

theorem toList_loop (bytes : ByteArray) (i : Nat) (before : List UInt8) :
    ByteArray.toList.loop bytes i before = before.reverse ++ bytes.data.toList.drop i := by
  induction left : bytes.size - i generalizing i before with
  | zero =>
    have past : bytes.data.toList.length ≤ i := by
      rw [Array.length_toList]
      change bytes.size ≤ i
      omega
    rw [ByteArray.toList.loop, if_neg (by omega), List.drop_eq_nil_of_le past, List.append_nil]
  | succ n ih =>
    have inside : i < bytes.data.toList.length := by
      rw [Array.length_toList]
      change i < bytes.size
      omega
    have here : bytes.get! i = bytes.data.toList[i] := by
      simp only [ByteArray.get!, Array.getElem_toList]
      exact getElem!_pos bytes.data i (by simpa using inside)
    rw [ByteArray.toList.loop, if_pos (by omega), ih _ _ (by omega), List.drop_eq_getElem_cons inside]
    simp [here]

theorem bytes_injective {a b : String} (same : bytes a = bytes b) : a = b := by
  simp only [bytes, ByteArray.toList, toList_loop, List.reverse_nil, List.nil_append,
    List.drop_zero] at same
  exact String.toByteArray_inj.mp (ByteArray.ext (Array.toList_inj.mp same))

end Text

namespace Http

/-- What is read from a body is the whole body. -/
theorem fromUTF8_eq {bytes : ByteArray} {body : String} (read : String.fromUTF8? bytes = some body) :
    bytes = body.toUTF8 := by
  unfold String.fromUTF8? at read
  split at read
  · cases read
    rfl
  · cases read

theorem drop_word (word : String) (rest : List Char) : (word.toList ++ rest).drop word.length = rest := by
  rw [← String.length_toList, List.drop_left]

theorem after?_eq_some {word text rest : String} (found : after? word text = some rest) :
    text = word ++ rest := by
  unfold after? at found
  split at found
  · next starts =>
    obtain ⟨tail, whole⟩ := List.isPrefixOf_iff_prefix.mp starts
    cases found
    apply String.toList_injective
    simp [← whole, drop_word]
  · cases found

/-- The request posts to the webhook. -/
def Request.PostsEvent (r : Request) : Prop :=
  r.method = "POST" ∧ ∃ path, Target.path? r.target = some path ∧ routeOf path = .webhook

/-- The first signature header of the request signs its exact body. -/
def Request.IsSigned (r : Request) (secret : String) (now : Instant) : Prop :=
  ∃ header body, r.header? Gateway.signatureHeader = some header ∧ r.body = body.toUTF8 ∧
    Gateway.Signs secret now.seconds header body

/-- The request is for one of the triggers of an operator. -/
def Request.IsOperators (r : Request) : Prop :=
  ∃ path, Target.path? r.target = some path ∧
    (routeOf path = .reloadSettings ∨ ∃ id, routeOf path = .reprovision id)

/-- A token is configured, and the request bears it. -/
def Request.Bears (r : Request) (site : Site) : Prop :=
  ∃ token, site.adminToken = some token ∧ r.header? "authorization" = some ("Bearer " ++ token)

theorem after?_append (word rest : String) : after? word (word ++ rest) = some rest := by
  simp [after?, drop_word]

theorem admits_iff (site : Site) (r : Request) : site.admits r = true ↔ r.Bears site := by
  unfold Site.admits Request.Bears
  constructor
  · intro admitted
    split at admitted
    · next expected presented configured given =>
      obtain ⟨text, header, found⟩ := Option.bind_eq_some_iff.mp given
      have same : expected = presented := Text.bytes_injective (beq_iff_eq.mp admitted)
      exact ⟨expected, configured, by rw [header, after?_eq_some found, same]⟩
    · cases admitted
  · rintro ⟨token, configured, header⟩
    simp [configured, header, after?_append, sameToken]

variable {site : Site} {o : Outside} {r : Request} {w : World}

theorem answer_refused {a : Action Json} (h : a.Refuses) (refused : IsRefusal (answer a w).1.status) :
    w.Untouched (answer a w).2 := by
  unfold answer at refused ⊢
  have here := h w
  rcases ran : a.run w with ⟨e | v, w'⟩ <;> rw [ran] at here refused
  · exact here e rfl refused
  · simp [IsRefusal] at refused

theorem webhookAction_refuses (site : Site) (o : Outside) (r : Request) (body : String) :
    (webhookAction site o r body).Refuses :=
  .after .now fun _ => .after (.ofExcept _) fun e => .before (Delivery.process_refuses o e) fun _ => .pure _

theorem reprovisionAction_refuses (site : Site) (o : Outside) (r : Request) (id : Uuid) :
    (reprovisionAction site o r id).Refuses :=
  .ite (.after (.throw _) fun _ => .before (Reprovision.service_refuses o id) fun _ => .pure _)
    (.before (Reprovision.service_refuses o id) fun _ => .pure _)

theorem reloadAction_refuses (site : Site) (r : Request) : (reloadAction site r).Refuses := by
  have loads : (Settings.reload >>= fun settings => Settings.announce >>= fun _ =>
      pure (Json.object [
        ("notification_timeout_secs", .int settings.timeoutSeconds),
        ("renewal_webhook_configured", .bool settings.webhookUrl.isSome),
        ("status", .text "reloaded")])).Internal :=
    .bind Settings.reload_internal fun _ => .bind (.execute _ _) fun _ => .pure _
  exact .ite (.after (.throw _) fun _ => .of_internal loads) (.of_internal loads)

theorem bare_refused {status : Nat} (blames : 400 ≤ status ∧ status < 500) :
    IsRefusal (bare status).status := blames

theorem answer_of_error {a : Action Json} {e : Failure} {w' : World} (ran : a.run w = (.error e, w')) :
    answer a w = (e.response, w') := by
  rw [answer, ran]

/-- Without a signature on the body that was read there is no event. -/
theorem eventOf_unsigned {body : String} (whole : r.body = body.toUTF8)
    (unsigned : ¬ r.IsSigned site.webhookSecret w.now) :
    ∃ text, site.eventOf w.now r body = .error (.webhookSignature text) := by
  unfold Site.eventOf
  cases given : r.header? Gateway.signatureHeader with
  | none => exact ⟨_, rfl⟩
  | some header =>
    dsimp only [Gateway.verify]
    cases checked : Gateway.checkSignature w.now.seconds body header site.webhookSecret with
    | error e => exact ⟨_, rfl⟩
    | ok _ => exact absurd ⟨header, body, given, whole, (Gateway.signs_iff _ _ _ _).mp checked⟩ unsigned

/-- A post to the webhook that is not signed is refused. -/
theorem unsigned_refused (o : Outside) (posts : r.PostsEvent)
    (unsigned : ¬ r.IsSigned site.webhookSecret w.now) : IsRefusal (handle site o r w).1.status := by
  obtain ⟨method, path, target, route⟩ := posts
  simp only [handle, target, handleAt, route, if_pos method, handleWebhook]
  split
  · exact bare_refused (by decide)
  · split
    · exact bare_refused (by decide)
    · split
      · exact bare_refused (by decide)
      · next body read =>
        obtain ⟨text, none⟩ := eventOf_unsigned (fromUTF8_eq read) unsigned
        have ran : (webhookAction site o r body).run w = (.error (.webhookSignature text), w) := by
          rw [webhookAction, Action.run_bind_of_ok (Action.run_now w), none]
          rfl
        rw [answer_of_error ran]
        exact bare_refused (by decide)

/-- A request for an operator's trigger that does not bear the token is refused. -/
theorem tokenless_refused (o : Outside) (operators : r.IsOperators) (tokenless : ¬ r.Bears site) (w : World) :
    IsRefusal (handle site o r w).1.status := by
  have locked : site.admits r = false := by
    rwa [← Bool.not_eq_true, admits_iff]
  obtain ⟨path, target, route | ⟨segment, route⟩⟩ := operators
  · have ran : (reloadAction site r).run w = (.error .unauthorized, w) := by
      simp only [reloadAction, locked]
      rfl
    simp only [handle, target, handleAt, route]
    split
    · rw [answer_of_error ran]
      exact bare_refused (by decide)
    · exact bare_refused (by decide)
  · simp only [handle, target, handleAt, route, handleReprovision]
    split
    · split
      · exact bare_refused (by decide)
      · next id _ =>
        have ran : (reprovisionAction site o r id).run w = (.error .unauthorized, w) := by
          simp only [reprovisionAction, locked]
          rfl
        rw [answer_of_error ran]
        exact bare_refused (by decide)
    · exact bare_refused (by decide)

/-- A request that is refused leaves the world untouched. -/
theorem handle_refused (site : Site) (o : Outside) (r : Request) (w : World) :
    IsRefusal (handle site o r w).1.status → w.Untouched (handle site o r w).2 := by
  have bare_same {x : Response} : IsRefusal (x, w).1.status → w.Untouched (x, w).2 := fun _ => .refl w
  unfold handle
  split
  · exact bare_same
  · next path target =>
    unfold handleAt
    cases routeOf path with
    | unknown => exact bare_same
    | health =>
      dsimp only
      split
      · exact bare_same
      · split <;> exact bare_same
    | webhook =>
      dsimp only [handleWebhook]
      split
      · split
        · exact bare_same
        · split
          · exact bare_same
          · split
            · exact bare_same
            · exact answer_refused (webhookAction_refuses site o r _)
      · exact bare_same
    | reprovision segment =>
      dsimp only [handleReprovision]
      split
      · split
        · exact bare_same
        · exact answer_refused (reprovisionAction_refuses site o r _)
      · exact bare_same
    | reloadSettings =>
      dsimp only
      split
      · exact answer_refused (reloadAction_refuses site r)
      · exact bare_same

/-- **Refused requests do nothing.** Whatever the tables hold and whatever faults strike: a request that is
answered from 400 to 499 leaves every table, the settings and the task queue as they were. A post to the
webhook is answered so unless its signature header signs its exact body now, and so is a request for an
operator's trigger unless a token is configured and the request bears it in every byte. -/
theorem refused_requests (site : Site) (o : Outside) (r : Request) (w : World) :
    (IsRefusal (handle site o r w).1.status → w.Untouched (handle site o r w).2) ∧
    (r.PostsEvent → ¬ r.IsSigned site.webhookSecret w.now → IsRefusal (handle site o r w).1.status) ∧
    (r.IsOperators → ¬ r.Bears site → IsRefusal (handle site o r w).1.status) :=
  ⟨handle_refused site o r w, fun posts unsigned => unsigned_refused o posts unsigned,
    fun operators tokenless => tokenless_refused o operators tokenless w⟩

/-- A request to reload the settings. -/
def sampleReload (token : String) : Request where
  method := "POST"
  target := "/admin/settings/reload"
  headers := [("Authorization", "Bearer " ++ token)]
  body := .empty
  broken := false

/-- A token that is too long by one letter does not reload the settings. -/
theorem refused_requests_wrongToken :
    let site : Site := ⟨"secret", some "token"⟩
    let o : Outside := {
      durable := true
      refuses := fun _ => false
      deliver := fun _ _ _ => .ok ()
      provision := fun _ => .ok ⟨"host", "address"⟩ }
    let w := World.start .empty ⟨0, 0⟩ 1 ⟨"", "", ""⟩
    IsRefusal (handle site o (sampleReload "tokens") w).1.status ∧
      w.Untouched (handle site o (sampleReload "tokens") w).2 := by
  intro site o w
  obtain ⟨untouched, -, locked⟩ := refused_requests site o (sampleReload "tokens") w
  have refused := locked ⟨"/admin/settings/reload".toList, rfl, .inl rfl⟩ ?_
  · exact ⟨refused, untouched refused⟩
  · rintro ⟨token, configured, header⟩
    cases configured
    simp [Request.header?, sampleReload, visible] at header

end Http

end HostingBilling
