import DataGateway.Proofs.Gateway.Response
import DataGateway.Proofs.Json.Document
import DataGateway.Proofs.Rest.Requests

/-!
# Answers of the server

What a call makes of the answer that it gets, apart from what it has asked: a value, if the reply says
one, or a fault. The address that was asked shows in two faults alone.

* `Reply.Says` — a reply says a value;
* `NamesAddress` — the failure of a request has its address in its text;
* `readAnswer_eq_ok_iff`, `readAnswer_anonymous`, `response_named_inj` — what the address of a request changes;
* `Adapter.reading` — sends a request and makes something of the answer.
-/

namespace DataGateway.Rest

/-! ## The next answer -/

/-- The answer that the server gives next. -/
def Server.next (server : Server) : Except Fault Reply := server.answers.headD (.ok emptyReply)

/-- The next answer comes back, whatever was asked, and the store stays as it was. -/
theorem send_next (request : Request) (backend : Backend) :
    (Backend.send request backend).1 = backend.server.next ∧
      (Backend.send request backend).2.store = backend.store := by
  rcases backend with ⟨⟨asked, answers⟩, store⟩
  cases answers with
  | nil => exact ⟨rfl, rfl⟩
  | cons answer answers => cases answer <;> exact ⟨rfl, rfl⟩

/-! ## Replies -/

/-- Has the server done what it was asked for? -/
def Reply.Succeeds (reply : Reply) : Prop := 200 ≤ reply.status ∧ reply.status < 300

/-- Does a reply say a value? One without content says null. -/
structure Reply.Says (reply : Reply) (v : Value) : Prop where
  succeeds : reply.Succeeds
  said : if reply.content = "" then v = .null else Json.decode reply.content.toList = .ok v

/-- What is read from a reply of a server that has done what it was asked for. -/
theorem readReply_of_succeeds {reply : Reply} (succeeds : reply.Succeeds) (url : String) :
    readReply url reply =
      if reply.content = "" then .ok .null
      else
        match Json.decode reply.content.toList with
        | .ok v => .ok v
        | .error ⟨.depth kind, _⟩ => .error (.misuse (.documentDepth kind))
        | .error _ => .error (.backend (.unreadable url)) := by
  rcases succeeds with ⟨least, most⟩
  have allowed : ¬(reply.status == 401) = true := by
    rw [beq_iff_eq]
    omega
  have fine : ¬(decide (reply.status < 200) || decide (300 ≤ reply.status)) = true := by
    rw [Bool.or_eq_true, decide_eq_true_iff, decide_eq_true_iff]
    omega
  unfold readReply
  dsimp only
  rw [if_neg allowed, if_neg fine]
  exact if_congr beq_iff_eq rfl rfl

/-- Any other reply is a fault, and its address is of no account. -/
theorem readReply_of_fails {reply : Reply} (fails : ¬reply.Succeeds) :
    ∃ fault, ∀ url, readReply url reply = .error fault := by
  unfold readReply
  dsimp only
  by_cases denied : (reply.status == 401) = true
  · exact ⟨_, fun _ => if_pos denied⟩
  · have failed : (decide (reply.status < 200) || decide (300 ≤ reply.status)) = true := by
      rw [Bool.or_eq_true, decide_eq_true_iff, decide_eq_true_iff]
      by_contra fine
      exact fails ⟨by omega, by omega⟩
    exact ⟨_, fun _ => (if_neg denied).trans (if_pos failed)⟩

/-- A value is read from a reply exactly where the reply says it. -/
theorem readReply_eq_ok_iff {reply : Reply} {url : String} {v : Value} :
    readReply url reply = .ok v ↔ reply.Says v := by
  by_cases succeeds : reply.Succeeds
  · rw [readReply_of_succeeds succeeds]
    constructor
    · intro read
      refine ⟨succeeds, ?_⟩
      split at read
      · rename_i empty
        cases read
        exact (if_pos empty).mpr rfl
      · rename_i full
        rw [if_neg full]
        split at read
        · cases read
          assumption
        · cases read
        · cases read
    · rintro ⟨-, said⟩
      split
      · rename_i empty
        rw [if_pos empty] at said
        rw [said]
      · rename_i full
        rw [if_neg full] at said
        rw [said]
  · rcases readReply_of_fails succeeds with ⟨fault, failed⟩
    rw [failed]
    exact iff_of_false nofun fun said => succeeds said.succeeds

theorem readAnswer_eq_ok_iff {answer : Except Fault Reply} {url : String} {v : Value} :
    readAnswer url answer = .ok v ↔ ∃ reply, answer = .ok reply ∧ reply.Says v := by
  cases answer with
  | error fault => exact iff_of_false nofun nofun
  | ok reply =>
      refine readReply_eq_ok_iff.trans ⟨fun said => ⟨reply, rfl, said⟩, ?_⟩
      rintro ⟨_, ⟨⟩, said⟩
      exact said

/-- A reply with the document of a value. -/
def Reply.ofValue (v : Value) : Reply :=
  ⟨200, "OK", String.ofList (Json.encode Json.compact v)⟩

theorem Reply.says_ofValue {v : Value} (readable : Json.Representable v) :
    (ofValue v).Says (Json.normalize v) := by
  have said : Json.decode (ofValue v).content.toList = .ok (Json.normalize v) := by
    rw [ofValue, String.toList_ofList, Json.decode_encode Json.isBlank_compact readable]
  have fine : (200 : Int) ≤ 200 ∧ (200 : Int) < 300 := by decide
  refine ⟨fine, ?_⟩
  rw [if_neg ?_]
  · exact said
  · intro empty
    rw [empty] at said
    cases said

/-! ## Addresses in texts -/

/-- Does a request fail in such a way that its address is part of the text? Either it got no reply, or the
content of the reply cannot be read. -/
inductive NamesAddress : Except Fault Reply → Prop
  | unsent {incident : Incident} (transport : incident.kind.isTransport = true) :
      NamesAddress (.error (.incident incident))
  | unreadable {reply : Reply} {problem : Json.Problem} (succeeds : reply.Succeeds)
      (full : reply.content ≠ "") (read : Json.decode reply.content.toList = .error problem)
      (shallow : ∀ kind, problem.cause ≠ .depth kind) : NamesAddress (.ok reply)

/-- In any other case the address does not matter. -/
theorem readAnswer_anonymous {answer : Except Fault Reply} (anonymous : ¬NamesAddress answer)
    (url other : String) : readAnswer url answer = readAnswer other answer := by
  cases answer with
  | error fault =>
      cases fault with
      | incident incident =>
          have arrived : ¬incident.kind.isTransport = true := fun transport =>
            anonymous (.unsent transport)
          simp only [readAnswer, sendFault, if_neg arrived]
      | _ => rfl
  | ok reply =>
      simp only [readAnswer]
      by_cases succeeds : reply.Succeeds
      · rw [readReply_of_succeeds succeeds, readReply_of_succeeds succeeds]
        by_cases empty : reply.content = ""
        · rw [if_pos empty, if_pos empty]
        · rw [if_neg empty, if_neg empty]
          cases read : Json.decode reply.content.toList with
          | ok v => rfl
          | error problem =>
              rcases problem with ⟨cause, remaining⟩
              cases cause with
              | depth kind => rfl
              | _ =>
                  refine (anonymous (.unreadable succeeds empty read fun kind same => ?_)).elim
                  cases same
      · rcases readReply_of_fails succeeds with ⟨fault, failed⟩
        rw [failed, failed]

/-- A fault of a known class that spares the session is answered with its text. -/
theorem response_text {fault : Fault} (classified : fault.isClassified = true)
    (spared : fault.revokes = false) (given : fault.message ≠ "") (forgotten : Except Fault Unit) :
    profile.responseTo forgotten (.error fault) = .ok (.failure fault.message) := by
  have known : profile.classify fault = .ok fault := congrArg Except.ok (if_pos classified)
  rw [Profile.responseTo_spared known spared, Fault.said_of_message_ne given]

/-- The address stands in the middle of the text that is answered. -/
theorem response_named {answer : Except Fault Reply} (names : NamesAddress answer) :
    ∃ before after, ∀ forgotten url, profile.responseTo forgotten (readAnswer url answer) =
      .ok (.failure (before ++ url ++ after)) := by
  have full {before : String} (given : before ≠ "") (url after : String) :
      before ++ url ++ after ≠ "" := by
    simp [String.append_eq_empty_iff, given]
  cases names with
  | @unsent incident transport =>
      refine ⟨"Request to ", " failed: " ++ incident.text, fun forgotten url => ?_⟩
      have text : (Fault.network (.request url incident.text)).message =
          "Request to " ++ url ++ (" failed: " ++ incident.text) := by
        rw [← String.append_assoc]
        rfl
      have given : (Fault.network (.request url incident.text)).message ≠ "" := by
        rw [text]
        exact full (by decide) url _
      simp only [readAnswer, sendFault, if_pos transport]
      rw [response_text rfl rfl given, text]
  | @unreadable reply problem succeeds given read shallow =>
      refine ⟨"Invalid JSON in response from ", "", fun forgotten url => ?_⟩
      have failed : readReply url reply = .error (.backend (.unreadable url)) := by
        rw [readReply_of_succeeds succeeds, if_neg given, read]
        rcases problem with ⟨cause, remaining⟩
        cases cause with
        | depth kind => exact absurd rfl (shallow kind)
        | _ => rfl
      have text : (Fault.backend (.unreadable url)).message =
          "Invalid JSON in response from " ++ url ++ "" := by
        rw [String.append_empty]
        rfl
      have given : (Fault.backend (.unreadable url)).message ≠ "" := by
        rw [text]
        exact full (by decide) url _
      rw [readAnswer, failed, response_text rfl rfl given, text]

theorem readAnswer_of_named {answer : Except Fault Reply} (names : NamesAddress answer)
    (url : String) : ∃ fault, readAnswer url answer = .error fault := by
  rcases response_named names with ⟨before, after, answered⟩
  cases read : readAnswer url answer with
  | error fault => exact ⟨fault, rfl⟩
  | ok v =>
      have text := answered (.ok ()) url
      rw [read] at text
      cases text

/-- Two requests that fail with their addresses in the texts are answered alike only if the addresses are
the same. -/
theorem response_named_inj {answer : Except Fault Reply} (names : NamesAddress answer)
    {forgotten again : Except Fault Unit} {url other : String}
    (same : profile.responseTo forgotten (readAnswer url answer) =
      profile.responseTo again (readAnswer other answer)) : url = other := by
  rcases response_named names with ⟨before, after, answered⟩
  rw [answered, answered] at same
  injection same with same
  injection same with same
  simpa using same

/-! ## Reading answers -/

theorem forget_congr {backend other : Backend} (same : backend.store = other.store) :
    (profile.forget backend).1 = (profile.forget other).1 := by
  rw [forget_apply, forget_apply, same]
  cases removed : other.store.remove tokenKey with
  | error fault => rw [Action.ofExcept_bind_error rfl, Action.ofExcept_bind_error rfl]
  | ok gone => rw [Action.ofExcept_bind_ok rfl, Action.ofExcept_bind_ok rfl]; rfl

namespace Adapter

variable (adapter : Adapter) {host : Host Backend}

/-- A value is found in the next reply. -/
theorem callFor_ok {call : Except Fault Call} {v : Value} {after : Host Backend}
    (ran : adapter.callFor call host = (.ok v, after)) :
    ∃ reply, host.backend.server.next = .ok reply ∧ reply.Says v := by
  cases call with
  | error fault =>
      rw [adapter.callFor_refused rfl] at ran
      cases ran
  | ok call =>
      by_cases unread : ∃ fault, TokenUnread host fault
      · rcases unread with ⟨fault, unread⟩
        rw [adapter.callFor_unread unread] at ran
        cases ran
      · rcases adapter.callFor_sent (not_exists.1 unread) call with ⟨session, journal, sent⟩
        rw [sent] at ran
        dsimp only at ran
        rw [(send_next _ _).1] at ran
        exact readAnswer_eq_ok_iff.1 (Prod.mk.inj ran).1

/-- Sends a request and makes something of the answer. -/
def reading (call : Except Fault Call) (finish : Value → Except Fault Value) : Work Value := do
  let v ← adapter.callFor call
  Action.ofExcept (finish v)

theorem reading_sent (read : ∀ fault, ¬TokenUnread host fault) (call : Call)
    (finish : Value → Except Fault Value) :
    let ran := adapter.reading (.ok call) finish host
    ran.1 = readAnswer (adapter.base.url call.path call.pairs) host.backend.server.next >>= finish ∧
      ran.2.backend.store = host.backend.store := by
  intro ran
  rcases adapter.callFor_sent read call with ⟨session, journal, sent⟩
  rcases send_next (adapter.requestFor session call) host.backend with ⟨answered, kept⟩
  have ran_eq : ran = _ := Action.bind_ofExcept (adapter.callFor (.ok call)) finish host
  rw [ran_eq, sent]
  dsimp only
  rw [answered]
  exact ⟨rfl, kept⟩

/-- The response to a request that is sent, if the backend forgets a session as it would have before. -/
theorem response_reading (read : ∀ fault, ¬TokenUnread host fault) (call : Call)
    (finish : Value → Except Fault Value) (operation : String) :
    (profile.resolve operation (adapter.reading (.ok call) finish) host).1 =
      profile.responseTo (profile.forget host.backend).1
        (readAnswer (adapter.base.url call.path call.pairs) host.backend.server.next >>= finish) := by
  rcases adapter.reading_sent read call finish with ⟨ran, kept⟩
  rw [Profile.resolve_response rfl, ran, forget_congr kept]

/-- Of a value that the reply says, its rows are answered. -/
theorem response_rows (read : ∀ fault, ¬TokenUnread host fault) (call : Call) {reply : Reply} {v : Value}
    (next : host.backend.server.next = .ok reply) (told : reply.Says v) (operation : String) :
    (profile.resolve operation (adapter.rows (.ok call)) host).1 =
      .ok (.success (v.orElse (.list []))) := by
  have answered : readAnswer (adapter.base.url call.path call.pairs) host.backend.server.next = .ok v := by
    rw [next]
    exact readReply_eq_ok_iff.2 told
  have rows : adapter.rows (.ok call) =
      adapter.reading (.ok call) fun v => .ok (v.orElse (.list [])) := rfl
  rw [rows, adapter.response_reading read, answered]
  rfl

end Adapter

/-- A server that has the document of a value ready; there is no token in the store. -/
def answering (v : Value) : Host Backend where
  backend := { server := { answers := [.ok (.ofValue v)] }, store := .memory [] }

theorem read_answering (v : Value) : ∀ fault, ¬TokenUnread (answering v) fault :=
  fun _ unread => nomatch unread.2

end DataGateway.Rest
