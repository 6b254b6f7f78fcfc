import AdmissionGate.Proofs.Shared.Replies
import AdmissionGate.Shared.Networked

/-!
# The life of a networked store

A networked store keeps three truths of itself: whether it is connected, whether the last call that
ended has succeeded, and whether it has been closed. Each call sets some of them, depending on how the
server meets it, and whether the store believes that its server can be reached is read off them. What
they are after a history of calls is told here by the replies alone.

* `NetworkedStore.store_ask`: what one call leaves behind.
* `NetworkedStore.closed_after`, `NetworkedStore.available_after`: what a history leaves behind.
* `NetworkedStore.consume_reply`: when recording an event succeeds, and what it tells then.
* `NetworkedStore.lifecycle`: what holds at each point of the life of a store. In
  `NetworkedStore.lifecycle_troubled` its server misbehaves in all the ways there are.
-/

namespace AdmissionGate

namespace Reply

variable {α β : Type}

/-- Whether a call with this reply has ended, well or not. -/
def ended : Reply α → Bool
  | .answer _ => true
  | .fault _ => true
  | .silence => false

/-- Whether a call with this reply has given what was asked for. -/
def succeeded : Reply α → Bool
  | .answer _ => true
  | .fault _ => false
  | .silence => false

@[simp] theorem ended_map (f : α → β) (r : Reply α) : (r.map f).ended = r.ended := by
  cases r <;> rfl

@[simp] theorem succeeded_map (f : α → β) (r : Reply α) :
    (r.map f).succeeded = r.succeeded := by
  cases r <;> rfl

theorem succeeded_iff {r : Reply α} : r.succeeded = true ↔ ∃ a, r = .answer a := by
  cases r <;> simp [succeeded]

/-- The reply of the last call that has ended. -/
def lastEnded? (rs : List (Reply α)) : Option (Reply α) := (rs.filter ended).getLast?

/-- How the last call has ended, or what holds before any has. -/
theorem succeeded_lastEnded?_cons (b : Bool) (r : Reply α) (rs : List (Reply α)) :
    ((lastEnded? (r :: rs)).map succeeded).getD b
      = ((lastEnded? rs).map succeeded).getD (if r.ended then r.succeeded else b) := by
  rw [lastEnded?, lastEnded?, List.filter_cons]
  split
  · rw [List.getLast?_cons]
    cases (rs.filter ended).getLast? <;> rfl
  · rfl

/-- The last call that has ended has gone well if and only if it has an answer. -/
theorem succeeded_lastEnded?_iff {rs : List (Reply α)} :
    ((lastEnded? rs).map succeeded).getD false = true ↔ ∃ a, lastEnded? rs = some (.answer a) := by
  cases lastEnded? rs with
  | none => simp
  | some last => simp [succeeded_iff]

end Reply

namespace Exchange

variable {α β : Type}

/-- The same exchange, with what the reply is made into. -/
def map (f : α → β) (x : Exchange α) : Exchange β := ⟨x.store, x.reply.map f, x.sent, x.events⟩

@[simp] theorem store_map (f : α → β) (x : Exchange α) : (x.map f).store = x.store := rfl

@[simp] theorem reply_map (f : α → β) (x : Exchange α) : (x.map f).reply = x.reply.map f := rfl

@[simp] theorem sent_map (f : α → β) (x : Exchange α) : (x.map f).sent = x.sent := rfl

end Exchange

namespace ServerValue

/-- What the script tells by a value: that the event was recorded by a one, then the number of
entries, and the score of the oldest if the text for it is a number. -/
def Tells (v : ServerValue) (o : WindowOutcome Double) : Prop :=
  ∃ recorded count oldest, v = .list [recorded, count, oldest] ∧
    (∃ k, recorded.signed? = some k ∧ (o.allowed = true ↔ k = 1)) ∧
    (∃ n, count.word? = some n ∧ o.count = n.toNat) ∧
    ∃ text, oldest.text? = some text ∧ o.oldest = Decimal.readDouble? text

/-- A value that can be read as a number is no error. -/
theorem error?_of_signed? {v : ServerValue} {k : Int} (h : v.signed? = some k) :
    v.error? = none := by
  cases v <;> first | rfl | cases h

theorem error?_of_word? {v : ServerValue} {n : UInt64} (h : v.word? = some n) :
    v.error? = none := by
  cases v <;> first | rfl | cases h

theorem error?_of_text? {v : ServerValue} {text : String} (h : v.text? = some text) :
    v.error? = none := by
  cases v <;> first | rfl | cases h

/-- A value that tells an outcome is no error. -/
theorem Tells.error?_eq_none {v : ServerValue} {o : WindowOutcome Double} (h : v.Tells o) :
    v.error? = none := by
  obtain ⟨recorded, count, oldest, rfl, ⟨k, hk, -⟩, ⟨n, hn, -⟩, text, htext, -⟩ := h
  simp [error?, firstError?, error?_of_signed? hk, error?_of_word? hn, error?_of_text? htext]

/-- Whether a value says that the script is not known. -/
def saysMissing : ServerValue → Bool
  | .error message => isMissingScript message
  | _ => false

end ServerValue

namespace Talk

/-- What the server says when the script has last been run. The first run may have told that the
script is not known. -/
def scriptAnswer (values : List ServerValue) : ServerValue :=
  if (next values).saysMissing then next values.tail else next values

/-- A command that runs the script is sent again, with the script before it, if that was missing. -/
theorem withScript_eq (command : ServerCommand) (values : List ServerValue) :
    withScript command values
      = (if (next values).saysMissing then [command, .loadScript, command] else [command],
          scriptAnswer values) := by
  rw [withScript, scriptAnswer]
  cases next values with
  | error message => cases h : isMissingScript message <;> simp [ServerValue.saysMissing, h]
  | integer n => rfl
  | text s => rfl
  | nothing => rfl
  | list items => rfl

theorem withScript_fst_ne_nil (command : ServerCommand) (values : List ServerValue) :
    (withScript command values).1 ≠ [] := by
  rw [withScript_eq]
  split <;> exact List.cons_ne_nil _ _

end Talk

/-- Whether a call that is met so finds a server. -/
def Contact.finds : Contact → Bool
  | .absent => false
  | .refused _ => false
  | .silent => true
  | .answers _ => true

namespace NetworkedStore

/-! ## Calls -/

/-- What a store can be asked for. -/
inductive Ask where
  | ping
  | consume (key : String) (limit window : UInt64) (now : Double) (id : String)
  | count (key : String) (window : UInt64) (now : Double)

/-- What it has for an answer. -/
inductive Answer where
  | pong
  | outcome (o : WindowOutcome Double)
  | count (n : Nat)

/-- A call for what is asked. -/
def ask (s : NetworkedStore) (c : Contact) : Ask → Exchange Answer
  | .ping => (s.ping c).map fun _ => .pong
  | .consume key limit window now id => (s.consume c key limit window now id).map .outcome
  | .count key window now => (s.count c key window now).map .count

section Call

variable {α : Type} {s : NetworkedStore} {talk : Talk} {read : ServerValue → Option α}

/-- A closed store turns down every call, and stays as it is. -/
theorem call_of_closed (h : s.closed = true) (c : Contact) :
    s.call c talk read = ⟨s, .fault .closed, [], []⟩ :=
  if_pos h

/-- A connection that is refused makes the store unavailable, and gives its reason. -/
theorem call_refused (h : s.closed = false) (reason : String) :
    s.call (.refused reason) talk read
      = ⟨{ s with available := false }, .fault (.server reason), [], []⟩ :=
  if_neg (Bool.eq_false_iff.mp h)

/-- A call that is answered succeeds if the answer can be read, and says how it has ended. -/
theorem call_answers (h : s.closed = false) (values : List ServerValue) :
    s.call (.answers values) talk read
      = match interpret read (talk values).2 with
        | .ok a =>
          ⟨{ s with connected := true, available := true }, .answer a, (talk values).1, s.greeting⟩
        | .error fault =>
          ⟨{ s with connected := true, available := false }, .fault fault, (talk values).1,
            s.greeting⟩ :=
  if_neg (Bool.eq_false_iff.mp h)

/-- What a call leaves behind: a connection if it finds a server, and how it has ended if it has. -/
theorem store_call (h : s.closed = false) (c : Contact) :
    (s.call c talk read).store
      = { s with
          connected := s.connected || c.finds
          available :=
            if (s.call c talk read).reply.ended then (s.call c talk read).reply.succeeded
            else s.available } := by
  obtain ⟨keyStart, connected, available, closed⟩ := s
  obtain rfl : closed = false := h
  cases c with
  | absent => simp [call, Contact.finds, Reply.ended]
  | refused reason => simp [call_refused, Contact.finds, Reply.ended, Reply.succeeded]
  | silent => simp [call, Contact.finds, Reply.ended]
  | answers values =>
    rw [call_answers rfl]
    cases interpret read (talk values).2 <;> simp [Contact.finds, Reply.ended, Reply.succeeded]

/-- A call that is answered has sent all that was to be said. -/
theorem sent_call_answers (h : s.closed = false) (values : List ServerValue) :
    (s.call (.answers values) talk read).sent = (talk values).1 := by
  rw [call_answers h]
  cases interpret read (talk values).2 <;> rfl

/-- A call that is answered goes as if the last one had ended otherwise. -/
theorem call_answers_available (h : s.closed = false) (b : Bool) (values : List ServerValue) :
    { s with available := b }.call (.answers values) talk read
      = s.call (.answers values) talk read := by
  have hs : ({ s with available := b } : NetworkedStore).closed = false := h
  rw [call_answers hs, call_answers h]
  rfl

/-- Only an answer of the server that can be read is the answer of a call. -/
theorem reply_call_eq_answer (h : s.closed = false) (c : Contact) (a : α) :
    (s.call c talk read).reply = .answer a ↔
      ∃ values, c = .answers values ∧ interpret read (talk values).2 = .ok a := by
  cases c with
  | absent => simp [call, h]
  | refused reason => simp [call_refused h]
  | silent => simp [call, h]
  | answers values =>
    rw [call_answers h]
    cases hread : interpret read (talk values).2 <;> simp [hread]

end Call

/-- Whatever is asked for is one call, which sends something if it finds a server. -/
theorem exists_call (s : NetworkedStore) (a : Ask) :
    ∃ (α : Type) (talk : Talk) (read : ServerValue → Option α) (f : α → Answer),
      (∀ values, (talk values).1 ≠ []) ∧
        ∀ t : NetworkedStore, t.serverKey = s.serverKey →
          ∀ c, t.ask c a = (t.call c talk read).map f := by
  -- what is sent depends on the store through its keys only
  cases a with
  | ping => exact ⟨_, .ping, _, _, fun _ => List.cons_ne_nil _ _, fun _ _ _ => rfl⟩
  | consume key limit window now id =>
    exact ⟨_, .withScript _, _, _, Talk.withScript_fst_ne_nil _,
      fun t ht c => by rw [ask, consume, ht]⟩
  | count key window now =>
    exact ⟨_, .transaction _, _, _, fun _ => List.cons_ne_nil _ _,
      fun t ht c => by rw [ask, count, ht]⟩

section Ask

variable {s : NetworkedStore}

/-- Whatever is asked of a closed store is turned down. -/
theorem ask_of_closed (h : s.closed = true) (c : Contact) (a : Ask) :
    s.ask c a = ⟨s, .fault .closed, [], []⟩ := by
  obtain ⟨α, talk, read, f, -, hask⟩ := s.exists_call a
  exact (hask s rfl c).trans (congrArg (·.map f) (call_of_closed h c))

/-- Whatever is asked for, a connection that is refused is reported. -/
theorem ask_refused (h : s.closed = false) (reason : String) (a : Ask) :
    s.ask (.refused reason) a
      = ⟨{ s with available := false }, .fault (.server reason), [], []⟩ := by
  obtain ⟨α, talk, read, f, -, hask⟩ := s.exists_call a
  exact (hask s rfl _).trans (congrArg (·.map f) (call_refused h reason))

/-- Whatever is asked for leaves a connection if it finds a server, and how it has ended if it has.
-/
theorem store_ask (h : s.closed = false) (c : Contact) (a : Ask) :
    (s.ask c a).store
      = { s with
          connected := s.connected || c.finds
          available :=
            if (s.ask c a).reply.ended then (s.ask c a).reply.succeeded else s.available } := by
  obtain ⟨α, talk, read, f, -, hask⟩ := s.exists_call a
  rw [hask s rfl]
  simpa using store_call h c

/-- **A store is available after a call that went well, and not after one that failed**; one that
has not ended leaves it as it was. -/
theorem available_ask (h : s.closed = false) (c : Contact) (a : Ask) :
    (s.ask c a).store.available
      = if (s.ask c a).reply.ended then (s.ask c a).reply.succeeded else s.available :=
  congrArg available (store_ask h c a)

/-- No call closes or opens a store. -/
theorem closed_ask (s : NetworkedStore) (c : Contact) (a : Ask) :
    (s.ask c a).store.closed = s.closed := by
  cases h : s.closed with
  | true => rw [ask_of_closed h, h]
  | false => rw [store_ask h, h]

/-- A call that finds a server sends something. -/
theorem sent_ask_answers (h : s.closed = false) (values : List ServerValue) (a : Ask) :
    (s.ask (.answers values) a).sent ≠ [] := by
  obtain ⟨α, talk, read, f, hsent, hask⟩ := s.exists_call a
  rw [hask s rfl]
  simpa [sent_call_answers h] using hsent values

/-- Having been unavailable makes no difference to a call that is answered. -/
theorem ask_answers_available (h : s.closed = false) (b : Bool) (values : List ServerValue)
    (a : Ask) :
    { s with available := b }.ask (.answers values) a = s.ask (.answers values) a := by
  obtain ⟨α, talk, read, f, -, hask⟩ := s.exists_call a
  have hasked := hask { s with available := b } rfl (.answers values)
  rw [hasked, hask s rfl, call_answers_available h]

/-- A call that finds no server does not stand in the way of the next. -/
theorem ask_answers_of_refused (h : s.closed = false) (reason : String) (a : Ask)
    (values : List ServerValue) (next : Ask) :
    (s.ask (.refused reason) a).store.ask (.answers values) next = s.ask (.answers values) next := by
  rw [ask_refused h]
  exact ask_answers_available h false values next

end Ask

/-! ## What the script tells -/

/-- **The reply of the script is read for what it tells**, and not at all if it tells nothing. -/
theorem outcome?_eq_some (v : ServerValue) (o : WindowOutcome Double) :
    outcome? v = some o ↔ v.Tells o := by
  constructor
  · intro h
    unfold outcome? at h
    split at h
    · next recorded count oldest =>
      simp only [Option.bind_eq_bind, Option.bind_eq_some_iff, Option.pure_def,
        Option.some.injEq] at h
      obtain ⟨k, hk, n, hn, text, htext, rfl⟩ := h
      exact ⟨recorded, count, oldest, rfl, ⟨k, hk, beq_iff_eq⟩, ⟨n, hn, rfl⟩, text, htext, rfl⟩
    · cases h
  · obtain ⟨allowed, total, first⟩ := o
    rintro ⟨recorded, count, oldest, rfl, ⟨k, hk, hallowed⟩, ⟨n, hn, htotal⟩, text, htext, hfirst⟩
    have hk' : (k == 1) = allowed := by
      rw [Bool.eq_iff_iff, beq_iff_eq, ← hallowed]
    simp only at htotal hfirst
    simp [outcome?, hk, hn, htext, hk', htotal, hfirst]

/-- A value that may be an error is read for what it tells. -/
theorem interpret_outcome?_eq_ok (v : ServerValue) (o : WindowOutcome Double) :
    interpret outcome? v = .ok o ↔ v.Tells o := by
  rw [← outcome?_eq_some]
  constructor
  · intro h
    unfold interpret at h
    split at h
    · cases h
    · next hread => rw [hread, Except.ok.inj h]
    · cases h
  · intro h
    rw [interpret, ((outcome?_eq_some v o).mp h).error?_eq_none, h]

/-- Recording an event succeeds if and only if the script tells an outcome, and then comes to it. -/
theorem consume_reply {s : NetworkedStore} (h : s.closed = false) (c : Contact) (key : String)
    (limit window : UInt64) (now : Double) (id : String) (o : WindowOutcome Double) :
    (s.consume c key limit window now id).reply = .answer o ↔
      ∃ values, c = .answers values ∧ (Talk.scriptAnswer values).Tells o := by
  rw [consume, reply_call_eq_answer h]
  simp only [Talk.withScript_eq, interpret_outcome?_eq_ok]

/-! ## Histories -/

/-- What happens to a store: it is asked for something, or closed. -/
inductive Step where
  | ask (c : Contact) (a : Ask)
  | close

/-- A store after some steps. -/
def after (s : NetworkedStore) : List Step → NetworkedStore
  | [] => s
  | .ask c a :: rest => (s.ask c a).store.after rest
  | .close :: rest => s.close.1.after rest

/-- The replies to the calls on the way. -/
def replies (s : NetworkedStore) : List Step → List (Reply Answer)
  | [] => []
  | .ask c a :: rest => (s.ask c a).reply :: (s.ask c a).store.replies rest
  | .close :: rest => s.close.1.replies rest

/-- Only closing closes a store, and nothing opens it again. -/
theorem closed_after (s : NetworkedStore) (steps : List Step) :
    (s.after steps).closed = true ↔ s.closed = true ∨ .close ∈ steps := by
  induction steps generalizing s with
  | nil => simp [after]
  | cons step rest ih =>
    -- a call leaves it to the rest of the history
    cases step with
    | ask c a => simp [after, ih, closed_ask]
    | close => simp [after, ih, close]

/-- Until it is closed, a store believes what the last call that has ended came to. -/
theorem available_after {s : NetworkedStore} (h : s.closed = false) {steps : List Step}
    (hopen : .close ∉ steps) :
    (s.after steps).available
      = ((Reply.lastEnded? (s.replies steps)).map Reply.succeeded).getD s.available := by
  induction steps generalizing s with
  | nil => rfl
  | cons step rest ih =>
    cases step with
    | ask c a =>
      have hrest := ih ((closed_ask s c a).trans h) (List.not_mem_of_not_mem_cons hopen)
      rw [after, hrest, replies, Reply.succeeded_lastEnded?_cons, available_ask h]
    | close => exact absurd (List.mem_cons_self ..) hopen

/-- **What holds at each point of the life of a store.** Until it is closed, it believes that its server
can be reached if and only if the last call that has ended succeeded, the one that began it included. A
call that cannot connect fails, sends nothing, and leaves the next call that finds a server as it would
be without it. Recording an event comes to what the script tells. Once it is closed, every call fails at
once. -/
theorem lifecycle (keyStart : String) (timeout : Duration) (c₀ : Contact) (steps : List Step) :
    let opening := begin keyStart timeout c₀
    let replies := opening.reply.map (fun _ => Answer.pong) :: opening.store.replies steps
    let s := opening.store.after steps
    (.close ∉ steps →
      (s.isAvailable = true ↔ ∃ a, Reply.lastEnded? replies = some (.answer a)) ∧
      (∀ reason a,
        let x := s.ask (.refused reason) a
        x.reply = .fault (.server reason) ∧ x.sent = [] ∧ x.store.isAvailable = false ∧
          ∀ values next,
            let y := x.store.ask (.answers values) next
            y = s.ask (.answers values) next ∧ y.sent ≠ [] ∧ y.store.connected = true) ∧
      ∀ c key limit window now id o,
        (s.consume c key limit window now id).reply = .answer o ↔
          ∃ values, c = .answers values ∧ (Talk.scriptAnswer values).Tells o) ∧
    (.close ∈ steps →
      s.isAvailable = false ∧ ∀ c a, s.ask c a = ⟨s, .fault .closed, [], []⟩) := by
  intro opening replies s
  have hopening : opening.store.closed = false := closed_ask (fresh keyStart) c₀ .ping
  refine ⟨fun hopen => ?_, fun hclose => ?_⟩
  · have hs : s.closed = false := by
      simpa [hopening, hopen] using closed_after opening.store steps
    refine ⟨?_, fun reason a => ?_, fun c key limit window now id o => consume_reply hs ..⟩
    · -- the call that begins the store is the first of its history
      have hopen' : .close ∉ Step.ask c₀ .ping :: steps := by simpa using hopen
      have hlast : s.available = ((Reply.lastEnded? replies).map Reply.succeeded).getD false :=
        available_after (s := fresh keyStart) rfl hopen'
      rw [isAvailable, hs, Bool.not_false, Bool.true_and, hlast]
      exact Reply.succeeded_lastEnded?_iff
    · intro x
      have hx : x = ⟨{ s with available := false }, .fault (.server reason), [], []⟩ :=
        ask_refused hs reason a
      refine ⟨congrArg Exchange.reply hx, congrArg Exchange.sent hx, ?_, fun values next => ?_⟩
      · rw [hx, isAvailable, Bool.and_false]
      · intro y
        have hy : y = s.ask (.answers values) next := ask_answers_of_refused hs ..
        refine ⟨hy, hy ▸ sent_ask_answers hs values next, ?_⟩
        rw [hy, store_ask hs, Contact.finds, Bool.or_true]
  · have hs : s.closed = true := (closed_after _ _).mpr (.inr hclose)
    exact ⟨by rw [isAvailable, hs]; rfl, ask_of_closed hs⟩

/-- A server that does not know the script at first and is told it. -/
def relearning : Contact :=
  .answers [.error "NOSCRIPT No matching script", .list [.integer 1, .text "3", .text "0"]]

/-- The server is told the script, then answers in an unexpected form, then cannot be connected to, then
answers again, and is silent in the end. -/
def troubled : List Step :=
  [.ask relearning (.consume "ip:a" 5 60 ⟨0⟩ "a"),
    .ask (.answers [.list [.integer 0]]) (.count "ip:a" 60 ⟨0⟩),
    .ask (.refused "Connection refused") .ping,
    .ask (.answers [.text "PONG"]) .ping,
    .ask .silent (.count "ip:a" 60 ⟨0⟩)]

theorem lifecycle_troubled :
    let opening := begin "rl:" (.ofMillis 50) (.refused "Connection refused")
    let s := opening.store.after troubled
    let ended := opening.store.after (troubled ++ [.close, .ask (.answers [.text "PONG"]) .ping])
    s.isAvailable = true ∧
      (s.consume relearning "ip:a" 5 60 ⟨0⟩ "b").reply = .answer ⟨true, 3, some ⟨0⟩⟩ ∧
      ended.isAvailable = false ∧ ∀ c a, ended.ask c a = ⟨ended, .fault .closed, [], []⟩ := by
  intro opening s ended
  have hopen : Step.close ∉ troubled := by simp [troubled]
  have hclose : Step.close ∈ troubled ++ [.close, .ask (.answers [.text "PONG"]) .ping] := by simp
  obtain ⟨havailable, -, hconsume⟩ :=
    (lifecycle "rl:" (.ofMillis 50) (.refused "Connection refused") troubled).1 hopen
  have htells : (Talk.scriptAnswer
      [.error "NOSCRIPT No matching script", .list [.integer 1, .text "3", .text "0"]]).Tells
        ⟨true, 3, some ⟨0⟩⟩ :=
    ⟨.integer 1, .text "3", .text "0", by cbv, ⟨1, rfl, by decide⟩, ⟨3, by cbv, rfl⟩, "0", rfl, by cbv⟩
  -- the call that is still waiting has not ended, so the one before it is the last
  exact ⟨havailable.mpr ⟨.pong, rfl⟩, (hconsume ..).mpr ⟨_, rfl, htells⟩, (lifecycle ..).2 hclose⟩

end NetworkedStore

end AdmissionGate
