import MixerPanel.Proofs.Dealings
import MixerPanel.Proofs.StatusRoundTrip

/-!
# Answers that come late

When the socket of a link closes, the requests that were made over it are forgotten.  Their answers
may still come, over one of the sockets that the link opens afterwards, and they may carry anything.
Two things keep them from being taken for answers to later requests: the table of outstanding
requests is emptied when the link hears of the close, and the ids go on from where they were.

So the ids of what was handed out before a close and after it are disjoint, and what is awaited was
handed out after it (`Session.Matches.request?_eq_none`).  A link drops such an answer before it
looks at the store (`Session.Matches.handle_of_late`), and nothing is left of it but a line in the
log (`late_answers_change_nothing`).

All this is about a close that the link hears of.  A link that is opened again while its socket is
open lets go of that socket and forgets nothing, neither then nor when the socket closes; an answer
to what was sent over it is taken from any later socket (`status_after_unheard_close_taken`).
-/

namespace MixerPanel

namespace Session

/-! ## What is awaited after everything was forgotten -/

section Late

variable {since before : List Exchange} {s : Session} {id : UInt64} {request : Request}

/-- What is awaited was handed out after everything was forgotten. -/
theorem mem_requests_since_of_awaits (awaits : Awaits (since ++ .forgotten :: before) id request) :
    id ∈ (requests since).map RequestFrame.id := by
  induction since with
  | nil => exact absurd awaits not_awaits_forgotten
  | cons exchange rest ih =>
      cases exchange with
      | handedOut frame =>
          rcases awaits_handedOut.mp awaits with rfl | earlier
          · exact List.mem_cons_self
          · exact List.mem_cons_of_mem _ (ih earlier)
      | carried frame accepted => exact ih (awaits_carried.mp awaits).1
      | forgotten => exact absurd awaits not_awaits_forgotten

theorem requests_append_forgotten :
    requests (since ++ .forgotten :: before) = requests since ++ requests before :=
  List.filterMap_append

/-- **Nothing is outstanding under an id from before.** -/
theorem Matches.request?_eq_none (m : Matches (since ++ .forgotten :: before) s)
    (handedOut : id ∈ (requests before).map RequestFrame.id) : s.tracker.request? id = none := by
  have distinct := m.distinct
  rw [requests_append_forgotten, List.map_append] at distinct
  by_contra known
  obtain ⟨request, isKnown⟩ := Option.ne_none_iff_exists'.mp known
  have awaits := (m.awaited id request).mp ((Tracker.request?_eq_some_iff m.once).mp isKnown)
  exact List.disjoint_of_nodup_append distinct (mem_requests_since_of_awaits awaits) handedOut

theorem Matches.ne_broadcastId {history : List Exchange} (m : Matches history s)
    (few : (requests history).length < UInt64.size - 1)
    (handedOut : id ∈ (requests history).map RequestFrame.id) : id ≠ broadcastId := by
  rintro rfl
  obtain ⟨frame, mem, same⟩ := List.mem_map.mp handedOut
  have below := m.below frame mem
  rw [same, toNat_broadcastId, m.counted] at below
  omega

/-- **A late answer is refused** before the store is looked at, and changes no session. -/
theorem Matches.handle_of_late (m : Matches (since ++ .forgotten :: before) s)
    (few : (requests (since ++ .forgotten :: before)).length < UInt64.size - 1) {text : String}
    (late : ∀ frame, ResponseFrame.decode text = .ok frame →
      frame.id ∈ (requests before).map RequestFrame.id) :
    ∃ lines e, (∀ store, s.handle store text = ⟨s, lines, (.error e, store.unchanged)⟩) ∧
      ∀ frame, ResponseFrame.decode text = .ok frame → e = .unexpectedId frame.id := by
  cases decoded : ResponseFrame.decode text with
  | error e => exact ⟨[], _, fun store => handle_of_undecodable store decoded, nofun⟩
  | ok frame =>
      have handedOut := late frame decoded
      have unknown := m.request?_eq_none handedOut
      have other : frame.id ≠ broadcastId := by
        refine m.ne_broadcastId few ?_
        rw [requests_append_forgotten, List.map_append]
        exact List.mem_append_right _ handedOut
      refine ⟨_, _, fun store => handle_of_unexpected store decoded other unknown, ?_⟩
      rintro _ ⟨⟩
      rfl

end Late

end Session

namespace Correspondence

theorem run_append (c : Correspondence) (before after : List Session.Operation) :
    c.run (before ++ after) = (c.run before).run after := List.foldl_append

/-- The history only grows. -/
theorem history_run (c : Correspondence) (operations : List Session.Operation) :
    ∃ since, (c.run operations).history = since ++ c.history := by
  induction operations generalizing c with
  | nil => exact ⟨[], rfl⟩
  | cons operation rest ih =>
      obtain ⟨since, grown⟩ := ih (c.step operation)
      refine ⟨since ++ (c.session.exchange? operation).toList, ?_⟩
      rw [List.append_assoc]
      exact grown

end Correspondence

namespace Browser

open Session (requests)

section Dropped

variable {b : Browser} {i : Nat}

/-- A text that is refused, by a session that stays the same, leaves nothing but lines in the
log. -/
theorem receive_of_refused {link : DaemonLink} (there : b.links[i]? = some link) {text : String}
    {lines : List Log.Line} {e : ProtocolError}
    (refused : link.session.handle link.context.store text
      = ⟨link.session, lines, (.error e, link.context.store.unchanged)⟩) :
    b.receive i text = b.noteAll (lines ++ [receiptLog (.error e)]) := by
  have received : link.context.receive link.session text
      = ⟨link.context, link.session, lines, .error e⟩ := by
    simp [Context.receive, refused, Context.update]
  have same : b.links.modify i (fun other =>
      { other with session := link.session, context := link.context }) = b.links := by
    refine Eq.trans (modify_congr there (g := id) ?_) (List.modify_id _ _)
    rfl
  simp only [receive, there, received, modifyLink, same]

/-- A socket over which a text comes stays as it is. -/
theorem setSocket_of_message {k : Nat} {socket : WebSocket} {state : SocketState} {text : String}
    (there : b.sockets[k]? = some socket)
    (possible : (SocketEvent.message text).after? socket.state = some state) :
    b.setSocket k { socket with state := state } = b := by
  obtain ⟨isOpen, rfl⟩ := SocketEvent.after?_message_eq_some_iff.mp possible
  have same : { socket with state := .opened } = socket := by rw [← isOpen]
  rw [same, setSocket, set_of_there there]

/-- A text that is heard is received, and that is all. -/
theorem step_message_of_hearer {place : Option Nat} {text : String}
    (heard : b.hearer? place (.message text) = some i) :
    (∃ link, b.links[i]? = some link) ∧
      (b.step (.socketEvent place (.message text))).browser = b.receive i text := by
  obtain ⟨socket, state, link, there, possible, linked, outcome⟩ := socketEvent_of_hearer heard
  refine ⟨⟨link, linked⟩, ?_⟩
  show (b.socketEvent place (.message text)).1 = _
  rw [outcome, setSocket_of_message there possible]
  rfl

/-- What one link receives does not concern another. -/
theorem getElem?_links_receive_of_ne {k : Nat} (other : k ≠ i) (text : String) :
    (b.receive k text).links[i]? = b.links[i]? := by
  unfold receive
  cases b.links[k]? with
  | none => rfl
  | some link =>
      show (b.links.modify k _)[i]? = _
      rw [List.getElem?_modify]
      simp [other]

/-- **Wherever a text comes that a link would refuse**, the link stays as it is, and if it hears of
the text, so does the page, up to the log. -/
theorem step_message_of_refused {text : String} {lines : List Log.Line} {e : ProtocolError}
    (refused : ∀ store,
      (b.sessionAt i).handle store text
        = ⟨b.sessionAt i, lines, (.error e, store.unchanged)⟩)
    (place : Option Nat) :
    let after := (b.step (.socketEvent place (.message text))).browser
    after.links[i]? = b.links[i]? ∧
      (b.hearer? place (.message text) = some i →
        after = b.noteAll (lines ++ [receiptLog (.error e)])) := by
  intro after
  have dropped : b.hearer? place (.message text) = some i →
      after = b.noteAll (lines ++ [receiptLog (.error e)]) := by
    intro heard
    obtain ⟨⟨link, there⟩, received⟩ := step_message_of_hearer heard
    have refusal := refused link.context.store
    rw [sessionAt_of_link there] at refusal
    exact received.trans (receive_of_refused there refusal)
  refine ⟨?_, dropped⟩
  cases heard : b.hearer? place (.message text) with
  | none => exact congrArg (·[i]?) (links_socketEvent_of_unheard heard)
  | some k =>
      by_cases here : k = i
      · rw [dropped (here ▸ heard)]
        rfl
      · have received : after = b.receive k text := (step_message_of_hearer heard).2
        rw [received, getElem?_links_receive_of_ne here]

end Dropped

/-- A close that a link hears of is in the history of what went back and forth over it. -/
theorem history_of_close {b : Browser} {i : Nat} {earlier : List Operation} {place : Option Nat}
    {code : Nat} {reason : String}
    (closes : (b.run earlier).hearer? place (.closed code reason) = some i)
    (later : List Operation) :
    ∃ since, (b.correspondence i
        (earlier ++ .socketEvent place (.closed code reason) :: later)).history
      = since ++ .forgotten :: (b.correspondence i earlier).history := by
  obtain ⟨-, -, link, -, -, there, -⟩ := socketEvent_of_hearer closes
  have resets : (b.run earlier).dealing? i (.socketEvent place (.closed code reason))
      = some .reset := by
    simp only [dealing?, closes, if_true, there, Option.bind_some]
    rfl
  rw [correspondence, dealings_append, Correspondence.run_append, dealings, resets]
  exact Correspondence.history_run ((b.correspondence i earlier).step .reset) _

end Browser

/-- **Answers that come late change nothing.**  Take any run of a page in which fewer requests are
made over a link than there are ids.  Let the link at some moment hear of the close of its socket,
and let a text then come, at any later moment and whatever has been opened and closed in between,
that is either no frame or a frame with an id that was handed out before the close.  Whatever it
holds,

* the session of the link refuses the text, against any store, and stays as it is with all its
  outstanding requests; if the text is a frame, it is refused because nothing waits for its id;
* over whichever socket it comes, the link stays as it is, and with it the store of the link: the
  status, the document, the active device; nobody is told anything, since there is no update;
* if the link hears of it, nothing else changes on the page, except that the refusal is logged.

The link may be driven by hand as well, and be opened again while it is open.  The close of a socket
that it has let go of is then not heard, and what was handed out before it is not forgotten; where
nothing is driven by hand, every close that can happen is heard (`Browser.hearer?_of_ofPage`). -/
theorem late_answers_change_nothing (b : Browser) (blank : b.links = []) (i : Nat)
    (earlier later : List Browser.Operation) (place : Option Nat) (code : Nat) (reason : String)
    (closes : (b.run earlier).hearer? place (.closed code reason) = some i)
    (few : (b.dealings i
      (earlier ++ .socketEvent place (.closed code reason) :: later)).countP
        Session.Operation.isRequest < UInt64.size - 1)
    (text : String)
    (late : ∀ frame, ResponseFrame.decode text = .ok frame →
      frame.id ∈ (Session.requests (b.correspondence i earlier).history).map RequestFrame.id) :
    let page := b.run (earlier ++ .socketEvent place (.closed code reason) :: later)
    ∃ lines e,
      (∀ store, (page.sessionAt i).handle store text
        = ⟨page.sessionAt i, lines, (.error e, store.unchanged)⟩) ∧
      (∀ frame, ResponseFrame.decode text = .ok frame → e = .unexpectedId frame.id) ∧
      ∀ arrival, let after := (page.step (.socketEvent arrival (.message text))).browser
        after.links[i]? = page.links[i]? ∧
        (page.hearer? arrival (.message text) = some i →
          after = page.noteAll (lines ++ [Browser.receiptLog (.error e)])) := by
  intro page
  obtain ⟨since, history⟩ := Browser.history_of_close closes later
  let c := b.correspondence i (earlier ++ .socketEvent place (.closed code reason) :: later)
  have session : c.session = page.sessionAt i := Browser.session_correspondence blank i _
  have begins : (Session.requests Correspondence.start.history).length
      + (b.dealings i (earlier ++ .socketEvent place (.closed code reason) :: later)).countP
        Session.Operation.isRequest < UInt64.size - 1 := by
    rw [← Nat.zero_add (List.countP ..)] at few
    exact few
  obtain ⟨matched, fewMade⟩ : Session.Matches c.history c.session ∧
      (Session.requests c.history).length < UInt64.size - 1 :=
    Correspondence.matches_run Session.matches_empty begins
  rw [history] at matched fewMade
  obtain ⟨lines, e, refused, unexpected⟩ := matched.handle_of_late fewMade late
  rw [session] at refused
  exact ⟨lines, e, refused, unexpected, Browser.step_message_of_refused refused⟩

/-- The answer to the first request comes over the second socket, as a status without a device: it
is dropped, and the second request waits on. -/
theorem status_from_first_socket_dropped :
    let earlier : List Browser.Operation := [.start, .socketEvent none .opened]
    let later : List Browser.Operation := [.fireTimer 0, .socketEvent none .opened]
    let page := (Browser.plain []).run (earlier ++ .socketEvent none (.closed 1006 "") :: later)
    let text := ResponseFrame.encode ⟨0, .status Status.empty.toValue⟩
    (page.sessionAt 0).pending = 1 ∧ page.hearer? none (.message text) = some 0 ∧
      ∃ lines, (page.step (.socketEvent none (.message text))).browser = page.noteAll lines := by
  intro earlier later page text
  have closes : ((Browser.plain []).run earlier).hearer? none (.closed 1006 "") = some 0 := by
    decide
  have few : ((Browser.plain []).dealings 0
      (earlier ++ .socketEvent none (.closed 1006 "") :: later)).countP
        Session.Operation.isRequest < UInt64.size - 1 := by decide
  have decoded : ResponseFrame.decode text = .ok ⟨0, .status Status.empty.toValue⟩ :=
    Status.empty.decode_frame 0
  have handedOut : (Session.requests ((Browser.plain []).correspondence 0 earlier).history).map
      RequestFrame.id = [0] := by decide
  have late : ∀ frame, ResponseFrame.decode text = .ok frame →
      frame.id ∈ (Session.requests ((Browser.plain []).correspondence 0 earlier).history).map
        RequestFrame.id := by
    rw [decoded, handedOut]
    rintro _ ⟨⟩
    exact List.mem_singleton_self _
  have heard : page.hearer? none (.message text) = some 0 := by decide
  obtain ⟨lines, e, -, -, dropped⟩ :=
    late_answers_change_nothing (Browser.plain []) rfl 0 earlier later none 1006 "" closes few text
      late
  exact ⟨by decide, heard, _, (dropped none).2 heard⟩

/-! ## A close that is not heard -/

/-- A status that answers an outstanding request is put into place. -/
theorem Session.handle_of_status {s : Session} {text : String} {id : UInt64} {document : Json}
    {status : Status} (store : Store)
    (decoded : ResponseFrame.decode text = .ok ⟨id, .status document⟩)
    (outstanding : (s.tracker.request? id).isSome) (read : Status.ofValue document = .ok status) :
    s.handle store text = ⟨s.answered ⟨id, .status document⟩, [],
      (.ok .statusReplaced, store.install status (some document))⟩ := by
  have taken : s.taken? text = some ⟨id, .status document⟩ :=
    taken?_eq_some_iff.mpr ⟨decoded, Or.inr outstanding⟩
  have served : store.serve (.replaceDocument document)
      = .ok (store.install status (some document)) :=
    Store.replaceDocument_eq_ok_iff.mpr ⟨status, read, rfl⟩
  rw [handle_of_taken store taken]
  have brought := store.written_bring .statusReplaced (.replaceDocument document)
  rw [served] at brought
  exact congrArg (Handled.mk _ _) brought

namespace Browser

/-- What the links of a page know: their status, and the requests that are outstanding. -/
def known (b : Browser) : List (Status × List (UInt64 × Request)) :=
  b.links.map fun link => (link.context.store.status, link.session.tracker.outstanding)

theorem known_receive {b : Browser} {link : DaemonLink} (only : b.links = [link]) (text : String) :
    (b.receive 0 text).known
      = [((link.session.handle link.context.store text).outcome.2.store.status,
          (link.session.handle link.context.store text).session.tracker.outstanding)] := by
  have there : b.links[0]? = some link := by rw [only]; rfl
  simp only [receive, there]
  show (b.links.modify 0 _).map _ = _
  rw [only]
  rfl

end Browser

/-- A link is opened again while its first socket is open. -/
def reopened : List Browser.Operation :=
  [.addLink "ws://localhost:14564/api/websocket" 2000, .connect 0, .socketEvent none .opened,
    .connect 0]

/-- The first socket closes, the second one opens, and brings the answer to the request that was
sent over the first: its status is put into place, and the request is outstanding no more. -/
theorem status_after_unheard_close_taken :
    let status : Status := ⟨[⟨"LATE", ⟨"", "", .full, .zero, []⟩⟩]⟩
    let closed : Browser.Operation := .socketEvent (some 0) (.closed 1006 "")
    let page := (Browser.plain []).run (reopened ++ [closed, .socketEvent none .opened])
    let text := ResponseFrame.encode ⟨0, .status status.toValue⟩
    let after := (page.step (.socketEvent none (.message text))).browser
    (Session.requests ((Browser.plain []).correspondence 0 reopened).history).map RequestFrame.id
        = [0] ∧
      page.sockets.map WebSocket.state = [.closed, .opened] ∧
      page.known = [(.empty, [(1, .getStatus), (0, .getStatus)])] ∧
      after.known = [(status, [(1, .getStatus)])] := by
  intro status closed page text after
  have decoded : ResponseFrame.decode text = .ok ⟨0, .status status.toValue⟩ :=
    status.decode_frame 0
  have read : Status.ofValue status.toValue = .ok status := by decide
  have handedOut : (Session.requests ((Browser.plain []).correspondence 0 reopened).history).map
      RequestFrame.id = [0] := by decide
  have closedFirst : page.sockets.map WebSocket.state = [.closed, .opened] := by decide
  have known : page.known = [(.empty, [(1, .getStatus), (0, .getStatus)])] := by decide
  have heard : page.hearer? none (.message text) = some 0 := by decide
  refine ⟨handedOut, closedFirst, known, ?_⟩
  -- how the page came to be so is of no more use, and Lean would compute it over and over
  clear_value page
  obtain ⟨link, only, seen⟩ := List.map_eq_singleton_iff.mp known
  have waiting : link.session.tracker.outstanding = [(1, .getStatus), (0, .getStatus)] :=
    congrArg Prod.snd seen
  have outstanding : (link.session.tracker.request? 0).isSome := by
    rw [Tracker.request?, waiting]
    rfl
  have answered : (link.session.answered ⟨0, .status status.toValue⟩).tracker.outstanding
      = [(1, .getStatus)] := by
    show Tracker.without link.session.tracker.outstanding 0 = _
    rw [waiting]
    rfl
  have received : after = page.receive 0 text := (Browser.step_message_of_hearer heard).2
  rw [received, Browser.known_receive only,
    Session.handle_of_status link.context.store decoded outstanding read, ← answered]
  rfl

end MixerPanel
