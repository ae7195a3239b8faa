import MicroChat.Business.LoginResponse
import MicroChat.Business.Replies
import MicroChat.Business.SyncTasks

/-!
# Business — Tasks

`CGITask::Buf2Resp` over all the classes that implement it, and what it does to the state that
goes into the headers of later requests.

* `CGITask`, `CGITask.buf2Resp`: the classes, and the function of each.
* `Routing`, `CGITask.routing`: the cookies and the uin, and what a response makes of them.
* `routing_buf2Resp`: the routing state after a response, whatever the response ends in.
-/

namespace MicroChat
open Support

/-! ### The tasks -/

/-- `NewSendCGITask`. -/
structure NewSendCGITask where
  m_content : Bytes
  m_ToId : Bytes
  deriving DecidableEq, Repr

/-- The classes, with what their `Buf2Resp` reads of an object. -/
inductive CGITask where
  | manualAuth (t : ManualAuthCGITask) (m : BaseHeader)
  | newInit (m : BaseHeader)
  | newSync (m : BaseHeader)
  | searchContact (m : BaseHeader)
  | getContact (m : BaseHeader)
  | verifyUser (t : VerifyUserCGITask) (m : BaseHeader)
  | bind (t : BindCGITask) (m : BaseHeader)
  | newSend (t : NewSendCGITask)
  | reportSyncKV

/-- What `m_res` points to. -/
inductive CgiResult where
  | login (res : LoginResult)
  | mobileVerify (res : MobileVerifyResult)
  | newInit (res : SyncResult)
  | newSync (res : SyncResult)
  | searchContact (res : SearchContactResult)
  | verifyUser (res : VerifyUserResult)

/-- What the tasks run on. -/
structure CgiEnv extends Env where
  ecdh : EcdhLib
  manualAuthResponse : Bytes → Option ManualAuthResponse
  replies : ReplyProto

def CgiEnv.auth (env : CgiEnv) : AuthEnv :=
  ⟨env.crypto, env.ecdh, env.platform, env.manualAuthResponse⟩

/-- `CAuthInfo`, the statics of `BaseHeader`, and the database. -/
structure CgiState where
  auth : AuthState
  db : Sql3

/-- What a call of `Buf2Resp` gets: the error code as the caller has set it, the bytes, and the
value of `time(NULL)`. -/
structure CgiInput where
  errorCode : Int
  inbuffer : Bytes
  time : UInt32

/-- What a call leaves behind.  `res` is what it has allocated for `m_res`, `started` the task it
has started. -/
structure CgiEnd where
  errorCode : Int
  task : CGITask
  state : CgiState
  res : Option CgiResult
  started : Option CGITask

section
variable (env : CgiEnv)

/-- `int NewSendCGITask::Buf2Resp(…)`: the message that was sent goes into the database. -/
def newSendBuf2Resp (t : NewSendCGITask) (x : CgiState) (time : UInt32) : Option CgiState := do
  let szFrom ← strcpyS 1024 x.auth.account.m_WxId
  let szTo ← strcpyS 1024 t.m_ToId
  let szContent ← strcpyS 65535 t.m_content
  return { x with db := addMsg env.platform env.sqlite x.db ⟨0, szFrom, szTo, 1, time, szContent⟩ }

/-- The state with the session a `Buf2Resp` leaves. -/
def CgiState.withSession (x : CgiState) (s : Session) : CgiState :=
  { x with auth := { x.auth with session := s } }

/-- `virtual int CGITask::Buf2Resp(…)`. -/
def CGITask.buf2Resp (x : CgiState) (i : CgiInput) : CGITask → Option CgiEnd
  | .manualAuth t m => (t.buf2Resp env.auth x.auth m i.inbuffer).map fun r =>
      ⟨r.errorCode, .manualAuth t r.header, { x with auth := r.state }, some (.login r.res), none⟩
  | .newInit m => (newInitBuf2Resp env.toEnv x.auth.session m x.db i.inbuffer).map fun r =>
      ⟨r.errorCode, .newInit r.header, { x.withSession r.session with db := r.db },
        some (.newInit r.res), none⟩
  | .newSync m => (newSyncBuf2Resp env.toEnv x.auth.session m x.db i.inbuffer).map fun r =>
      ⟨r.errorCode, .newSync r.header, { x.withSession r.session with db := r.db },
        some (.newSync r.res), if r.reported then some .reportSyncKV else none⟩
  | .searchContact m =>
      (searchContactBuf2Resp env.crypto env.platform env.replies x.auth.session m i.inbuffer).map
        fun r => ⟨r.errorCode, .searchContact r.header, x.withSession r.session,
          some (.searchContact r.res), none⟩
  | .getContact m =>
      (getContactBuf2Resp env.crypto env.platform env.replies x.auth.session m i.inbuffer).map
        fun r => ⟨r.errorCode, .getContact r.header, x.withSession r.session,
          some (.searchContact r.res), none⟩
  | .verifyUser t m =>
      (verifyUserBuf2Resp env.crypto env.platform env.replies t x.auth.session m i.inbuffer).map
        fun r => ⟨r.errorCode, .verifyUser t r.header, x.withSession r.session,
          some (.verifyUser r.res.1), r.res.2.map fun t => .verifyUser t {}⟩
  | .bind t m =>
      (bindBuf2Resp env.crypto env.platform env.replies t x.auth.session m i.inbuffer).map
        fun r => ⟨r.errorCode, .bind t r.header, x.withSession r.session,
          some (.mobileVerify r.res), none⟩
  | .newSend t => (newSendBuf2Resp env t x i.time).map fun x =>
      ⟨i.errorCode, .newSend t, x, none, none⟩
  | .reportSyncKV => some ⟨i.errorCode, .reportSyncKV, x, none, none⟩

end

/-! ### The routing state -/

/-- What the headers of requests carry of earlier responses, and the uin a login takes over. -/
structure Routing where
  m_cookie : Bytes
  s_cookie : Bytes
  s_dwUin : UInt32
  deriving DecidableEq, Repr

def Session.routing (s : Session) : Routing := ⟨s.authInfo.m_cookie, s.s_cookie, s.s_dwUin⟩

/-- Where the fixed fields of a packet begin. -/
def markerLen (pack : Bytes) : Nat := if pack.getD 0 0 = 0xbf then 1 else 0

/-- The cookie a packet brings. -/
def cookieOf (pack : Bytes) : Option Bytes :=
  let n := (pack.getD (markerLen pack + 1) 0 &&& 0xF).toNat
  if 0x20 ≤ pack.length ∧ n ≠ 0 then some ((pack.drop (markerLen pack + 10)).take n) else none

/-- The uin a packet brings. -/
def uinOf (pack : Bytes) : Option UInt32 :=
  if 0x20 ≤ pack.length then some (.ofNat (fromBe ((pack.drop (markerLen pack + 6)).take 4)))
  else none

/-- The routing state once a header has been read. -/
def Routing.refresh (R : HeaderReader) (pack : Bytes) (ρ : Routing) : Routing where
  m_cookie := if R.savesCookie then (cookieOf pack).getD ρ.m_cookie else ρ.m_cookie
  s_cookie := if R.savesCookie then (cookieOf pack).getD ρ.s_cookie else ρ.s_cookie
  s_dwUin := if R.savesUin then (uinOf pack).getD ρ.s_dwUin else ρ.s_dwUin

/-- The header parser of a class; two classes do not look at their responses. -/
def CGITask.reader : CGITask → Option HeaderReader
  | .manualAuth _ _ => some .manualAuth
  | .bind _ _ => some .bind
  | .newInit _ | .newSync _ | .searchContact _ | .getContact _ | .verifyUser _ _ => some .base
  | .newSend _ | .reportSyncKV => none

/-- The routing state a task makes of a packet. -/
def CGITask.routing (task : CGITask) (pack : Bytes) (ρ : Routing) : Routing :=
  match task.reader with
  | some R => ρ.refresh R pack
  | none => ρ

/-- What the header of the packet brings for the task is what is held already. -/
def CGITask.BringsNothingNew (task : CGITask) (pack : Bytes) (ρ : Routing) : Prop :=
  ∀ R, task.reader = some R →
    (R.savesCookie = true → ∀ c, cookieOf pack = some c → c = ρ.m_cookie ∧ c = ρ.s_cookie) ∧
    (R.savesUin = true → ∀ n, uinOf pack = some n → n = ρ.s_dwUin)

/-- A header parser, as far as the routing state is concerned. -/
theorem routing_unPackHeaderWith {R : HeaderReader} {s : Session} {m : BaseHeader} {pack : Bytes}
    {u : HeaderResult} (h : unPackHeaderWith R s m pack = some u) :
    u.session.routing = s.routing.refresh R pack := by
  rw [session_unPackHeaderWith h]
  by_cases hlen : 0x20 ≤ pack.length
  · rw [if_pos hlen]
    -- the fixed fields bring the uin, and what stands behind them the cookie
    have huin : uinOf pack = some _ := if_pos hlen
    have hfixed : (fixedFields R s m pack).session =
        { s with s_dwUin := if R.savesUin then (uinOf pack).getD s.s_dwUin else s.s_dwUin } := by
      rw [huin]
      simp only [fixedFields, markerLen, Option.getD_some]
      split <;> rfl
    by_cases hn : (fixedFields R s m pack).nCookieLen ≠ 0
    · have hcookie : cookieOf pack =
          some ((pack.drop (fixedFields R s m pack).nCur).take
            (fixedFields R s m pack).nCookieLen) := if_pos ⟨hlen, hn⟩
      cases hs : R.savesCookie with
      | true =>
          rw [cookieSession, if_pos ⟨hn, hs⟩, hfixed]
          simp only [Session.routing, Routing.refresh, hs, if_true, hcookie, Option.getD_some]
      | false =>
          rw [cookieSession, if_neg (by simp [hs]), hfixed]
          simp only [Session.routing, Routing.refresh, hs, Bool.false_eq_true, if_false]
    · have hcookie : cookieOf pack = none := if_neg fun h => hn h.2
      rw [cookieSession, if_neg fun h => hn h.1, hfixed]
      simp only [Session.routing, Routing.refresh, hcookie, Option.getD_none, ite_self]
  · have hcookie : cookieOf pack = none := if_neg fun h => hlen h.1
    have huin : uinOf pack = none := if_neg hlen
    rw [if_neg hlen]
    simp only [Routing.refresh, hcookie, huin, Option.getD_none, ite_self]

/-- Reading a header changes nothing just if it brings nothing new. -/
theorem routing_eq_iff {task : CGITask} {pack : Bytes} {ρ : Routing} :
    task.routing pack ρ = ρ ↔ task.BringsNothingNew pack ρ := by
  rw [CGITask.routing, CGITask.BringsNothingNew]
  cases hR : task.reader with
  | none => exact ⟨fun _ R h => (by cases h), fun _ => rfl⟩
  | some R =>
      simp only [Option.some_inj, forall_eq']
      obtain ⟨m_cookie, s_cookie, s_dwUin⟩ := ρ
      cases hc : R.savesCookie <;> cases hu : R.savesUin <;>
        cases hcookie : cookieOf pack <;> cases huin : uinOf pack <;>
        simp [Routing.refresh, hc, hu, hcookie, huin, and_assoc]

/-- **After any response**, accepted or not, the routing state is what the header makes of it. -/
theorem routing_buf2Resp {env : CgiEnv} {task : CGITask} {x : CgiState} {i : CgiInput}
    {r : CgiEnd} (h : task.buf2Resp env x i = some r) :
    r.state.auth.session.routing = task.routing i.inbuffer x.auth.session.routing ∧
      (r.state.auth.session.routing = x.auth.session.routing ↔
        task.BringsNothingNew i.inbuffer x.auth.session.routing) := by
  suffices hr : r.state.auth.session.routing =
      task.routing i.inbuffer x.auth.session.routing from ⟨hr, by rw [hr, routing_eq_iff]⟩
  cases task with
  | manualAuth t m =>
      obtain ⟨r, hr, rfl⟩ := Option.map_eq_some_iff.mp h
      cases ManualAuthCGITask.buf2Resp_outcome hr with
      | loggedIn _ hu _ hstate =>
          refine Eq.trans ?_ (routing_unPackHeaderWith hu)
          rw [hstate]
          rfl
      | refused _ hu _ hsession _ =>
          refine Eq.trans ?_ (routing_unPackHeaderWith hu)
          rw [hsession]
  | newInit m | newSync m =>
      obtain ⟨r, hr, rfl⟩ := Option.map_eq_some_iff.mp h
      obtain ⟨u, hu, hsession⟩ := session_buf2RespWith hr
      refine Eq.trans ?_ (routing_unPackHeaderWith hu)
      rw [← hsession]
      rfl
  | searchContact m | getContact m | verifyUser t m | bind t m =>
      obtain ⟨r, hr, rfl⟩ := Option.map_eq_some_iff.mp h
      obtain ⟨⟨u, hu, hsession⟩, -⟩ := replyWith_outcome hr
      refine Eq.trans ?_ (routing_unPackHeaderWith hu)
      rw [← hsession]
      rfl
  | newSend t =>
      obtain ⟨x', hx, rfl⟩ := Option.map_eq_some_iff.mp h
      obtain ⟨szFrom, -, hx⟩ := Option.bind_eq_some_iff.mp hx
      obtain ⟨szTo, -, hx⟩ := Option.bind_eq_some_iff.mp hx
      obtain ⟨szContent, -, hx⟩ := Option.bind_eq_some_iff.mp hx
      cases hx
      rfl
  | reportSyncKV =>
      cases h
      rfl

/-! ### A response with nothing behind its header -/

/-- A header of 32 bytes, with a cookie. -/
def headerOnly : CgiInput where
  errorCode := 0
  inbuffer := [0xbf, 0x82, 0x5f, 0, 0, 0, 0, 0, 0, 0, 0] ++ List.replicate 15 1 ++
    [0x8a, 0x01, 0, 0, 0, 0]
  time := 0

def plainCgiEnv : CgiEnv where
  __ := plainEnv
  ecdh := ⟨fun _ _ => false, fun _ _ => false, fun _ _ => false, fun _ _ _ => none, false⟩
  manualAuthResponse _ := none
  replies := ⟨fun _ => none, fun _ => none, fun _ => none, fun _ => none⟩

theorem returns_headerOnly : ∃ r,
    (CGITask.newSync {}).buf2Resp plainCgiEnv ⟨{}, ⟨none, 0⟩⟩ headerOnly = some r ∧
      (r.errorCode, r.state.auth.session.routing.m_cookie) =
        (cgiCodeUnpackErr, List.replicate 15 1) :=
  Option.map_eq_some_iff.mp (by decide +kernel)

/-- The cookie of a header without a body is kept. -/
theorem routing_headerOnly : ∃ r,
    (CGITask.newSync {}).buf2Resp plainCgiEnv ⟨{}, ⟨none, 0⟩⟩ headerOnly = some r ∧
      r.state.auth.session.routing =
        (CGITask.newSync {}).routing headerOnly.inbuffer (Session.routing {}) ∧
      (r.state.auth.session.routing = Session.routing {} ↔
        (CGITask.newSync {}).BringsNothingNew headerOnly.inbuffer (Session.routing {})) := by
  obtain ⟨r, hr, -⟩ := returns_headerOnly
  exact ⟨r, hr, routing_buf2Resp hr⟩

/-- A header without a body is rejected, and its cookie kept. -/
theorem not_routing_kept : ¬ ∀ (env : CgiEnv) (task : CGITask) (x : CgiState) (i : CgiInput)
    (r : CgiEnd), task.buf2Resp env x i = some r → r.errorCode ≠ 0 →
      r.state.auth.session.routing = x.auth.session.routing := by
  intro h
  obtain ⟨r, hr, he⟩ := returns_headerOnly
  obtain ⟨hcode, hcookie⟩ := Prod.mk.inj he
  have := h _ _ _ _ r hr (by rw [hcode]; decide)
  rw [this] at hcookie
  cases hcookie

end MicroChat
