import Coprocessor.Upload
import Mathlib.Algebra.Group.Nat.Defs

/-!
# The account of an upload

A log of requests to a buffer and of its answers has an account (`Upload.account`) : what was
announced last, the bytes received since then, and whether they were verified. The buffer is a
function of the account (`Upload.answerAll_ofAccount`), in particular the checksum that it keeps is
that of the bytes it holds. So all that it holds and will answer can be told from the log
(`Upload.accounted`).

A second verification is refused, even if it would find nothing wrong
(`Upload.refuses_second_verification`).
-/

namespace Coprocessor.Upload

/-! ## Requests and answers -/

/-- A request to a buffer. -/
inductive Request where
  /-- Announces a length. -/
  | announce (total : UInt32)
  /-- Sends a piece. -/
  | append (piece : Bytes)
  /-- Asks for the content to be verified. -/
  | verify (expected : UInt32)
  /-- Drops the content. -/
  | free
  deriving DecidableEq, Repr

/-- An answer to a request. -/
inductive Answer where
  /-- To an announcement. -/
  | announced (result : Except Status Unit)
  /-- To a piece. -/
  | received (result : Except Status Receipt)
  /-- To the wish to verify. -/
  | judged (result : Except Status Verdict)
  /-- The content is dropped. -/
  | freed

/-- The answer of a buffer to a request, and the buffer after it, where there is memory. -/
def respond (u : Upload) : Request → Answer × Upload
  | .announce total =>
    let (result, u) := u.announce (fun _ => true) total
    (.announced result, u)
  | .append piece =>
    let (result, u) := u.append piece
    (.received result, u)
  | .verify expected =>
    let (result, u) := u.verify expected
    (.judged result, u)
  | .free => (.freed, u.free)

/-- Requests with their answers, in order. -/
abbrev Log := List (Request × Answer)

/-- The log of a buffer that answers requests in a row, and the buffer after them. -/
def answerAll (u : Upload) : List Request → Log × Upload
  | [] => ([], u)
  | r :: requests =>
    let (answer, u) := u.respond r
    let (log, u) := u.answerAll requests
    ((r, answer) :: log, u)

/-! ## Accounts -/

/-- What is known of an upload since its announcement. -/
structure Account where
  /-- The length announced. -/
  total : Nat
  /-- The bytes of the pieces received. -/
  received : Bytes
  /-- Whether they were verified. -/
  verified : Bool
  deriving DecidableEq, Repr

namespace Account

/-- The bytes received, as far as they were announced. -/
def held (a : Account) : Bytes :=
  a.received.take a.total

/-- The account after one more request and its answer. -/
def note : Option Account → Request × Answer → Option Account
  | _, (.announce total, .announced (.ok ())) => some ⟨total.toNat, [], false⟩
  | some a, (.append piece, .received (.ok _)) => some { a with received := a.received ++ piece }
  | some a, (.verify _, .judged (.ok verdict)) =>
    some { a with verified := a.verified || verdict.status = .ok }
  | _, (.free, _) => none
  | a, _ => a

/-- How far the upload is. -/
def stage (a : Account) : Stage :=
  if a.verified then .sealed a.held
  else .loading a.total a.held ⟨Checksum.register Checksum.seed a.held⟩

end Account

/-- The account of a log, none if nothing is announced. -/
def account (log : Log) : Option Account :=
  log.foldl Account.note none

/-- The buffer of an account. -/
def ofAccount (kind : Kind) (limit : Nat) : Option Account → Upload
  | none => empty kind limit
  | some a => ⟨kind, limit, a.stage⟩

/-- Whether bytes are what the host expects. -/
def Passes (kind : Kind) (total : Nat) (held : Bytes) (expected : UInt32) : Prop :=
  match kind with
  | .code => held.length % 2 = 0 ∧ expected = Checksum.crc32 held
  | .script => held.length = total ∧ (expected = Checksum.crc32 held ∨ expected = 0xFFFFFFFF)

variable {kind : Kind} {limit : Nat} {log : Log} {u : Upload} {a : Account}

namespace Account

theorem length_held_le (a : Account) : a.held.length ≤ a.total :=
  List.length_take_le _ _

/-- The account after one more piece. -/
def receive (a : Account) (piece : Bytes) : Account :=
  { a with received := a.received ++ piece }

/-- Of a piece as much is held as there is room for. -/
theorem held_receive (a : Account) (piece : Bytes) :
    (a.receive piece).held = a.held ++ piece.take (a.total - a.held.length) := by
  have hroom : a.total - a.received.length = a.total - a.held.length := by
    rw [held, List.length_take]
    omega
  rw [held, receive, List.take_append, hroom, held]

theorem stage_of_open (h : a.verified = false) :
    a.stage = .loading a.total a.held ⟨Checksum.register Checksum.seed a.held⟩ := by
  rw [stage, h]
  rfl

theorem stage_of_verified (h : a.verified = true) : a.stage = .sealed a.held := by
  rw [stage, h]
  rfl

end Account

/-! ## Answers by the account -/

theorem held_ofAccount : (ofAccount kind limit (some a)).held = a.held := by
  cases h : a.verified with
  | false => rw [Upload.held, ofAccount, Account.stage_of_open h]
  | true => rw [Upload.held, ofAccount, Account.stage_of_verified h]

theorem content?_ofAccount :
    (ofAccount kind limit (some a)).content? = if a.verified then some a.held else none := by
  cases h : a.verified with
  | false => rw [content?, ofAccount, Account.stage_of_open h, if_neg nofun]
  | true => rw [content?, ofAccount, Account.stage_of_verified h, if_pos rfl]

theorem ofAccount_announced (total : Nat) :
    ofAccount kind limit (some ⟨total, [], false⟩) =
      ⟨kind, limit, .loading total [] Checksum.Rolling.empty⟩ := by
  rw [ofAccount, Account.stage_of_open rfl, Account.held, List.take_nil]
  rfl

theorem append_of_open (h : a.verified = false) (piece : Bytes) :
    (ofAccount kind limit (some a)).append piece =
      (.ok ⟨if a.total - a.held.length < piece.length then .size else .ok,
        .ofNat (a.receive piece).held.length⟩, ofAccount kind limit (some (a.receive piece))) := by
  have hdropped : (piece.take (a.total - a.held.length)).length < piece.length ↔
      a.total - a.held.length < piece.length := by
    rw [List.length_take]
    omega
  have hopen : (a.receive piece).verified = false := h
  simp only [append, ofAccount, Account.stage_of_open h, Account.stage_of_open hopen, hdropped,
    Account.held_receive, Checksum.Rolling.update, Checksum.register_append]
  rfl

theorem append_of_verified (h : a.verified = true) (piece : Bytes) :
    (ofAccount kind limit (some a)).append piece =
      (.error .state, ofAccount kind limit (some a)) := by
  rw [append, ofAccount, Account.stage_of_verified h]

/-- Bytes are found good if they are what the host expects. -/
theorem status_judge_eq_ok_iff (kind : Kind) (total : Nat) (held : Bytes) (expected : UInt32) :
    (judge kind total held ⟨Checksum.register Checksum.seed held⟩ expected).status = .ok ↔
      Passes kind total held expected := by
  have hvalue : (⟨Checksum.register Checksum.seed held⟩ : Checksum.Rolling).value =
      Checksum.crc32 held := rfl
  cases kind with
  | code =>
    simp only [judge, hvalue, Passes]
    grind
  | script =>
    simp only [judge, trustingChecksum, Passes]
    grind

/-- An open buffer passes its judgement, and is sealed if nothing is wrong. -/
theorem verify_of_open (kind : Kind) (limit : Nat) (h : a.verified = false) (expected : UInt32) :
    ∃ verdict : Verdict, (ofAccount kind limit (some a)).verify expected =
        (.ok verdict, ofAccount kind limit
          (some { a with verified := a.verified || verdict.status = .ok })) ∧
      (verdict.status = .ok ↔ Passes kind a.total a.held expected) := by
  have hiff := status_judge_eq_ok_iff kind a.total a.held expected
  refine ⟨_, ?_, hiff⟩
  by_cases hp : Passes kind a.total a.held expected
  · simp only [verify, ofAccount, Account.stage_of_open h, if_pos (hiff.mpr hp)]
    rw [decide_eq_true (hiff.mpr hp), h]
    rfl
  · have hstatus := mt hiff.mp hp
    simp only [verify, ofAccount, Account.stage_of_open h, if_neg hstatus]
    rw [decide_eq_false hstatus, Bool.or_false, ← Account.stage_of_open h]

theorem verify_of_verified (h : a.verified = true) (expected : UInt32) :
    (ofAccount kind limit (some a)).verify expected =
      (.error .state, ofAccount kind limit (some a)) := by
  rw [verify, ofAccount, Account.stage_of_verified h]

/-! ## Logs -/

/-- The buffer after a request is that of the account after it. -/
theorem respond_ofAccount (x : Option Account) (r : Request) :
    ((ofAccount kind limit x).respond r).2 =
      ofAccount kind limit (Account.note x (r, ((ofAccount kind limit x).respond r).1)) := by
  cases r with
  | announce total =>
    cases ha : (ofAccount kind limit x).admits total with
    | true =>
      simp only [respond, announce, ha, if_true]
      cases x <;> exact (ofAccount_announced total.toNat).symm
    | false =>
      simp only [respond, announce, ha, Bool.false_eq_true, if_false]
      cases x <;> rfl
  | append piece =>
    cases x with
    | none => rfl
    | some a =>
      cases hv : a.verified with
      | false => rw [respond, append_of_open hv]; rfl
      | true => rw [respond, append_of_verified hv]; rfl
  | verify expected =>
    cases x with
    | none => rfl
    | some a =>
      cases hv : a.verified with
      | false =>
        obtain ⟨verdict, hverify, -⟩ := verify_of_open kind limit hv expected
        rw [respond, hverify]
        rfl
      | true => rw [respond, verify_of_verified hv]; rfl
  | free => cases x <;> rfl

/-- A buffer is that of the account of its log. -/
theorem answerAll_ofAccount (x : Option Account) (requests : List Request) :
    ((ofAccount kind limit x).answerAll requests).2 =
      ofAccount kind limit (((ofAccount kind limit x).answerAll requests).1.foldl Account.note x) := by
  induction requests generalizing x with
  | nil => rfl
  | cons r requests ih =>
    simp only [answerAll, List.foldl_cons, respond_ofAccount]
    exact ih _

/-- The length in an account is that of the announcement, whatever happens later. -/
theorem Account.total_note {x : Option Account} {r : Request} {answer : Answer}
    (h : note x (r, answer) = some a) :
    (∃ total, r = .announce total ∧ answer = .announced (.ok ()) ∧ a.total = total.toNat) ∨
      ∃ b, x = some b ∧ a.total = b.total := by
  unfold note at h
  split at h
  case h_1 total hentry =>
    cases h
    cases hentry
    exact .inl ⟨total, rfl, rfl, rfl⟩
  case h_2 | h_3 =>
    cases h
    exact .inr ⟨_, rfl, rfl⟩
  case h_4 => cases h
  case h_5 => exact .inr ⟨a, h, rfl⟩

theorem limit_ofAccount (x : Option Account) : (ofAccount kind limit x).limit = limit := by
  cases x <;> rfl

/-- A length that is announced is within the limit. -/
theorem le_of_announced {total : UInt32}
    (h : (u.respond (.announce total)).1 = .announced (.ok ())) : total.toNat ≤ u.limit := by
  cases ha : u.admits total with
  | true =>
    simp only [admits, Bool.and_eq_true, decide_eq_true_eq] at ha
    exact ha.2
  | false =>
    simp only [respond, announce, ha, Bool.false_eq_true, if_false] at h
    cases h

/-- Whether the length announced is within the limit and one that can be announced. -/
def Account.Bounded (limit : Nat) (x : Option Account) : Prop :=
  ∀ a, x = some a → a.total ≤ limit ∧ a.total < 2 ^ 32

theorem Account.Bounded.note {x : Option Account} (h : Bounded limit x) (r : Request) :
    Bounded limit (Account.note x (r, ((ofAccount kind limit x).respond r).1)) := by
  intro a ha
  rcases total_note ha with ⟨total, rfl, hok, htotal⟩ | ⟨b, hb, htotal⟩
  · have hle := le_of_announced hok
    rw [limit_ofAccount] at hle
    rw [htotal]
    exact ⟨hle, total.toNat_lt⟩
  · rw [htotal]
    exact h b hb

theorem Account.Bounded.answerAll {x : Option Account} (h : Bounded limit x)
    (requests : List Request) :
    Bounded limit (((ofAccount kind limit x).answerAll requests).1.foldl Account.note x) := by
  induction requests generalizing x with
  | nil => exact h
  | cons r requests ih =>
    simp only [Upload.answerAll, List.foldl_cons, respond_ofAccount]
    exact ih (h.note r)

/-! ## What can be told -/

/-- What the account of an upload tells of the buffer. -/
structure Keeps (kind : Kind) (limit : Nat) (a : Account) (u : Upload) : Prop where
  /-- The bytes received are held as far as they were announced, and the limit is kept. -/
  held : u.held = a.received.take a.total ∧ u.held.length ≤ a.total ∧ a.total ≤ limit
  /-- They are the content from the time they were verified. -/
  content : u.content? = if a.verified then some u.held else none
  /-- Until then a piece is received, and the receipt tells how many bytes are held after it, and
  whether some of it was dropped. -/
  receives : a.verified = false → ∀ piece, ∃ receipt : Receipt,
    (u.append piece).1 = .ok receipt ∧
      (u.append piece).2.held = (a.received ++ piece).take a.total ∧
      receipt.total.toNat = (u.append piece).2.held.length ∧
      (receipt.status = .ok ∨ receipt.status = .size) ∧
      (receipt.status = .size ↔ (u.append piece).2.held.length < u.held.length + piece.length)
  /-- All is well with a verification if there was none before with which all was well, and the
  bytes held are what the host expects. -/
  verifies : ∀ expected,
    (∃ verdict : Verdict, (u.verify expected).1 = .ok verdict ∧ verdict.status = .ok) ↔
      a.verified = false ∧ Passes kind a.total u.held expected
  /-- What was held is then the content. -/
  seals : ∀ expected verdict, (u.verify expected).1 = .ok verdict → verdict.status = .ok →
    (u.verify expected).2.content? = some u.held
  /-- Any other verification leaves the buffer as it is. -/
  spares : ∀ expected,
    (∀ verdict, (u.verify expected).1 = .ok verdict → verdict.status ≠ .ok) →
      (u.verify expected).2 = u
  /-- Verified content stays as it is : pieces and verifications are refused. -/
  settled : a.verified = true →
    (∀ piece, u.append piece = (.error .state, u)) ∧
      ∀ expected, u.verify expected = (.error .state, u)

theorem keeps_ofAccount (hle : a.total ≤ limit) (hlt : a.total < 2 ^ 32) :
    Keeps kind limit a (ofAccount kind limit (some a)) where
  held := by
    rw [held_ofAccount]
    exact ⟨rfl, a.length_held_le, hle⟩
  content := by rw [content?_ofAccount, held_ofAccount]
  receives hv piece := by
    have hl := (a.receive piece).length_held_le
    have htotal : (a.receive piece).total = a.total := rfl
    have hsize := congrArg List.length (a.held_receive piece)
    rw [List.length_append, List.length_take] at hsize
    have hnat : (UInt32.ofNat (a.receive piece).held.length).toNat = (a.receive piece).held.length :=
      UInt32.toNat_ofNat_of_lt' (by rw [UInt32.size]; omega)
    have hdropped : a.total - a.held.length < piece.length ↔
        (a.receive piece).held.length < a.held.length + piece.length := by omega
    rw [append_of_open hv]
    refine ⟨_, rfl, held_ofAccount, ?_, ?_, ?_⟩
    · rw [held_ofAccount, hnat]
    · split <;> simp
    · rw [held_ofAccount, held_ofAccount, ← hdropped]
      split <;> simp_all
  verifies expected := by
    rw [held_ofAccount]
    cases hv : a.verified with
    | false =>
      obtain ⟨verdict, hverify, hiff⟩ := verify_of_open kind limit hv expected
      simp [hverify, hiff]
    | true => simp [verify_of_verified hv]
  seals expected verdict hverdict hok := by
    cases hv : a.verified with
    | false =>
      obtain ⟨v, hverify, -⟩ := verify_of_open kind limit hv expected
      rw [hverify] at hverdict ⊢
      cases hverdict
      rw [hok, content?_ofAccount, held_ofAccount]
      simp [Account.held]
    | true =>
      rw [verify_of_verified hv] at hverdict
      cases hverdict
  spares expected hbad := by
    cases hv : a.verified with
    | false =>
      obtain ⟨v, hverify, -⟩ := verify_of_open kind limit hv expected
      have hstatus : v.status ≠ .ok := hbad v (by rw [hverify])
      rw [hverify, decide_eq_false hstatus, Bool.or_false]
    | true => rw [verify_of_verified hv]
  settled hv := ⟨append_of_verified hv, verify_of_verified hv⟩

/-- Whether a request and its answer begin another upload, or drop the content. -/
def renews : Request × Answer → Bool
  | (.free, _) | (_, .announced (.ok ())) => true
  | _ => false

/-- A buffer with verified content is as it was after every request that does not renew it. -/
theorem Keeps.eq_of_respond (h : Keeps kind limit a u) (hv : a.verified = true) {r : Request}
    (hr : renews (r, (u.respond r).1) = false) : (u.respond r).2 = u := by
  obtain ⟨happend, hverify⟩ := h.settled hv
  cases r with
  | announce total =>
    cases ha : u.admits total with
    | true => simp [respond, announce, ha, renews] at hr
    | false => simp [respond, announce, ha]
  | append piece => rw [respond, happend]
  | verify expected => rw [respond, hverify]
  | free => cases hr

theorem Keeps.eq_of_answerAll (h : Keeps kind limit a u) (hv : a.verified = true)
    {requests : List Request} (hr : ∀ entry ∈ (u.answerAll requests).1, renews entry = false) :
    (u.answerAll requests).2 = u := by
  induction requests with
  | nil => rfl
  | cons r requests ih =>
    simp only [answerAll] at hr ⊢
    obtain ⟨hfirst, hrest⟩ := List.forall_mem_cons.mp hr
    have hsame := h.eq_of_respond hv hfirst
    rw [hsame] at hrest ⊢
    exact ih hrest

/-- After any requests to a new buffer, the account of its log tells what it holds and what it will
answer. Verified content stays as it is until another upload begins or the content is dropped. -/
theorem accounted (kind : Kind) (limit : Nat) (requests : List Request) (a : Account)
    (h : account ((empty kind limit).answerAll requests).1 = some a) :
    let u := ((empty kind limit).answerAll requests).2
    Keeps kind limit a u ∧
      (a.verified = true → ∀ later, (∀ entry ∈ (u.answerAll later).1, renews entry = false) →
        (u.answerAll later).2 = u) := by
  have hnone : Account.Bounded limit none := nofun
  have hbounded : Account.Bounded limit
      (((ofAccount kind limit none).answerAll requests).1.foldl Account.note none) :=
    hnone.answerAll requests
  have hbuffer : ((empty kind limit).answerAll requests).2 =
      ofAccount kind limit (account ((empty kind limit).answerAll requests).1) :=
    answerAll_ofAccount none requests
  obtain ⟨hle, hlt⟩ := hbounded a h
  have hkeeps : Keeps kind limit a ((empty kind limit).answerAll requests).2 := by
    rw [hbuffer, h]
    exact keeps_ofAccount hle hlt
  exact ⟨hkeeps, fun hv later hr => hkeeps.eq_of_answerAll hv hr⟩

/-- Of six bytes of a script four are announced and held. Another checksum than theirs is refused,
then it is left to the device, and what is sent and asked later changes nothing. -/
theorem accounted_of_truncated :
    let requests : List Request :=
      [.announce 4, .append (Bytes.ofText "RET 42"), .verify 0, .verify 0xFFFFFFFF]
    let later : List Request := [.append [0x31], .verify 0xFFFFFFFF, .announce 100]
    let u := ((empty .script 64).answerAll requests).2
    account ((empty .script 64).answerAll requests).1 =
        some ⟨4, Bytes.ofText "RET 42", true⟩ ∧
      u.content? = some (Bytes.ofText "RET ") ∧
      (∀ entry ∈ (u.answerAll later).1, renews entry = false) ∧ (u.answerAll later).2 = u := by
  intro requests later u
  have told : account ((empty .script 64).answerAll requests).1 =
      some ⟨4, Bytes.ofText "RET 42", true⟩ := by decide +kernel
  obtain ⟨keeps, settled⟩ := accounted .script 64 requests _ told
  have content : u.content? = some (Bytes.ofText "RET ") := by
    rw [keeps.content, keeps.held.1]
    decide +kernel
  have spared : ∀ entry ∈ (u.answerAll later).1, renews entry = false := by decide +kernel
  exact ⟨told, content, spared, settled rfl later spared⟩

/-- Not every verification of bytes that are what the host expects goes well : two bytes of code
that are verified are not verified again. -/
theorem refuses_second_verification :
    ¬∀ (kind : Kind) (limit : Nat) (requests : List Request) (a : Account),
      account ((empty kind limit).answerAll requests).1 = some a →
      let u := ((empty kind limit).answerAll requests).2
      ∀ expected, (∃ verdict : Verdict,
        (u.verify expected).1 = .ok verdict ∧ verdict.status = .ok) ↔
          Passes kind a.total u.held expected := by
  intro always
  let code : Bytes := [0x00, 0xBF]
  let requests : List Request := [.announce 2, .append code, .verify (Checksum.crc32 code)]
  have told : account ((empty .code 64).answerAll requests).1 = some ⟨2, code, true⟩ := by
    decide +kernel
  have settled : ((empty .code 64).answerAll requests).2.stage = .sealed code := by decide +kernel
  have passes : Passes .code 2 ((empty .code 64).answerAll requests).2.held
      (Checksum.crc32 code) := by
    rw [held, settled]
    exact ⟨by decide, rfl⟩
  obtain ⟨verdict, hverdict, -⟩ := (always .code 64 requests _ told (Checksum.crc32 code)).mpr passes
  rw [verify, settled] at hverdict
  cases hverdict

end Coprocessor.Upload
