import MicroChat.Business.Items

/-!
# Business — FieldCopies

The calls of `strcpy_s` that fill the messages and the contacts of a response.  The arrays have
fixed sizes and the fields are as long as the server sends them; a field that is longer than its
array ends the program.

* `Parsed`, `newSyncParse`, `newInitParse`: what the payload of an item parses as, before its
  fields are copied.
* `strcpyCalls`: the calls in the course of the loop.
* `noOverflow_iff`: when they all stay within their arrays.
* `noOverflow_iff_short`: the same for a response, and what becomes of the others.
-/

namespace MicroChat
open Support

/-! ### Calls -/

/-- A call of `strcpy_s`: the size of the array, and the source. -/
structure StrcpyCall where
  size : Nat
  src : Bytes
  deriving DecidableEq

/-- The source and its terminator are not longer than the array. -/
def StrcpyCall.Fits (call : StrcpyCall) : Prop := (cstr call.src).length + 1 ≤ call.size

instance : DecidablePred StrcpyCall.Fits := fun call =>
  inferInstanceAs (Decidable ((cstr call.src).length + 1 ≤ call.size))

theorem StrcpyCall.fits_iff {call : StrcpyCall} :
    call.Fits ↔ (strcpyS call.size call.src).isSome := by
  rw [Fits, isSome_strcpyS_iff, Nat.add_one_le_iff]

/-- The calls that are made of those in the text of the program: one that does not fit ends the
program. -/
def callsMade : List StrcpyCall → List StrcpyCall
  | [] => []
  | call :: calls => if call.Fits then call :: callsMade calls else [call]

/-- The calls that are made all fit just if there is none that does not. -/
theorem forall_callsMade_iff {calls : List StrcpyCall} :
    (∀ call ∈ callsMade calls, call.Fits) ↔ ∀ call ∈ calls, call.Fits := by
  induction calls with
  | nil => rfl
  | cons call calls ih =>
      rw [callsMade, List.forall_mem_cons]
      by_cases hfits : call.Fits
      · rw [if_pos hfits, List.forall_mem_cons, ih]
      · rw [if_neg hfits, List.forall_mem_singleton]
        exact iff_of_false hfits fun h => hfits h.1

/-! ### Payloads -/

/-- What the payload of an item parses as. -/
inductive Parsed where
  | message (msg : NewMsgContent)
  | contact (info : ContactInfoMsg)
  /-- nothing the client keeps -/
  | skip
  /-- a payload that does not parse -/
  | bad
  deriving DecidableEq

namespace Parsed
variable (P : Platform)

/-- The fields are copied. -/
def copy : Parsed → Option Decoded
  | message msg => (newMsgOf P msg).map .message
  | contact info => (contactOf info).map .contact
  | skip => some .skip
  | bad => some .bad

/-- The calls that copy them: `szFrom`, `szTo`, `szContent`, or `wxid`, `nickName`, `headicon`,
`v1_Name`. -/
def calls : Parsed → List StrcpyCall
  | message msg =>
      [⟨1024, msg.fromId⟩, ⟨1024, msg.toId⟩, ⟨65535, utf82CStringA P msg.rawcontent⟩]
  | contact info =>
      [⟨100, info.wxid⟩, ⟨100, info.nickname⟩, ⟨200, info.headicon_small⟩,
        ⟨200, info.encryptname⟩]
  | skip | bad => []

/-- The ids, the names and the addresses are shorter than their arrays, and so is the content in
the code page. -/
def Short : Parsed → Prop
  | message msg => (cstr msg.fromId).length < 1024 ∧ (cstr msg.toId).length < 1024 ∧
      (utf82CStringA P msg.rawcontent).length < 65535
  | contact info => (cstr info.wxid).length < 100 ∧ (cstr info.nickname).length < 100 ∧
      (cstr info.headicon_small).length < 200 ∧ (cstr info.encryptname).length < 200
  | skip | bad => True

variable {P} {p : Parsed}

theorem forall_calls_iff : (∀ call ∈ p.calls P, call.Fits) ↔ p.Short P := by
  cases p with
  | message msg =>
      simp only [calls, List.forall_mem_cons, List.not_mem_nil, false_implies, implies_true,
        and_true, StrcpyCall.Fits, cstr_utf82CStringA, Short, Nat.add_one_le_iff]
  | contact info =>
      simp only [calls, List.forall_mem_cons, List.not_mem_nil, false_implies, implies_true,
        and_true, StrcpyCall.Fits, Short, Nat.add_one_le_iff]
  | skip | bad => simp [calls, Short]

/-- The copies of an item succeed just if its calls fit. -/
theorem isSome_copy_iff : (p.copy P).isSome ↔ ∀ call ∈ p.calls P, call.Fits := by
  cases p with
  | message msg =>
      simp only [copy, newMsgOf, calls, List.forall_mem_cons, StrcpyCall.fits_iff]
      cases strcpyS 1024 msg.fromId <;> cases strcpyS 1024 msg.toId <;>
        cases strcpyS 65535 (utf82CStringA P msg.rawcontent) <;> simp
  | contact info =>
      simp only [copy, contactOf, calls, List.forall_mem_cons, StrcpyCall.fits_iff]
      cases strcpyS 100 info.wxid <;> cases strcpyS 100 info.nickname <;>
        cases strcpyS 200 info.headicon_small <;> cases strcpyS 200 info.encryptname <;> simp
  | skip | bad => simp [copy, calls]

theorem copy_eq_bad_iff : p.copy P = some .bad ↔ p = .bad := by
  cases p with
  | message msg => simp [copy]
  | contact info => simp [copy]
  | skip | bad => simp [copy]

end Parsed

section
variable (env : Env)

/-- An item of a `NewSync` response. -/
def newSyncParse (item : Item) : Parsed :=
  if item.type = 5 then
    match env.proto.newSyncRespMsg item.payload with
    | some msg => .message msg
    | none => .bad
  else if item.type = 2 then
    match env.proto.commonMsg item.payload with
    | some common =>
        match env.proto.contactInfo common with
        | some info => .contact info
        | none => .bad
    | none => .skip
  else .skip

/-- An item of a `NewInit` response. -/
def newInitParse (item : Item) : Parsed :=
  if item.type = 1 then
    if env.proto.userInfo item.payload then .skip else .bad
  else if item.type = 2 then
    match env.proto.contactInfo item.payload with
    | some info => .contact info
    | none => .bad
  else if item.type = 5 then
    match env.proto.newMsgContent item.payload with
    | some msg => .message msg
    | none => .bad
  else .skip

/-- The two functions parse an item and copy what comes of it. -/
theorem newSyncItem_eq (item : Item) :
    newSyncItem env item = (newSyncParse env item).copy env.platform := by
  rw [newSyncItem, newSyncParse]
  split
  · cases env.proto.newSyncRespMsg item.payload <;> rfl
  · split
    · cases env.proto.commonMsg item.payload with
      | none => rfl
      | some common => cases hinfo : env.proto.contactInfo common <;> simp [hinfo, Parsed.copy]
    · rfl

theorem newInitItem_eq (item : Item) :
    newInitItem env item = (newInitParse env item).copy env.platform := by
  rw [newInitItem, newInitParse]
  split
  · split <;> rfl
  · split
    · cases env.proto.contactInfo item.payload <;> rfl
    · split
      · cases env.proto.newMsgContent item.payload <;> rfl
      · rfl

end

/-! ### The loop -/

/-- What the loop over `n` items comes to, up to an item that does not parse. -/
def itemsParsed (parse : Item → Parsed) (n : Nat) (items : List Item) : List Parsed :=
  ((items.take n).map parse).takeWhile (· ≠ .bad)

/-- The calls of `strcpy_s` in the course of the loop. -/
def strcpyCalls (P : Platform) (parse : Item → Parsed) (n : Nat) (items : List Item) :
    List StrcpyCall :=
  callsMade ((itemsParsed parse n items).flatMap (Parsed.calls P))

/-- No call is made whose source does not fit. -/
def NoOverflow (P : Platform) (parse : Item → Parsed) (cnt : Int32) (items : List Item) : Prop :=
  ∀ call ∈ strcpyCalls P parse cnt.toInt.toNat items, call.Fits

/-- Every item that the loop comes to has short fields. -/
def ItemsShort (P : Platform) (parse : Item → Parsed) (cnt : Int32) (items : List Item) : Prop :=
  ∀ p ∈ itemsParsed parse cnt.toInt.toNat items, p.Short P

section Loop
variable {P : Platform} {parse : Item → Parsed} {decode : Item → Option Decoded}
  {store : SyncState → Decoded → SyncState} {n i : Nat} {item : Item} {items : List Item}

/-- **When no call overflows.** -/
theorem noOverflow_iff {cnt : Int32} :
    NoOverflow P parse cnt items ↔ ItemsShort P parse cnt items := by
  rw [NoOverflow, strcpyCalls, forall_callsMade_iff, ItemsShort]
  simp only [← Parsed.forall_calls_iff, List.mem_flatMap]
  constructor
  · intro h p hp call hcall
    exact h call ⟨p, hp, hcall⟩
  · rintro h call ⟨p, hp, hcall⟩
    exact h p hp call hcall

theorem itemsParsed_cons_bad (h : parse item = .bad) :
    itemsParsed parse (n + 1) (item :: items) = [] := by
  simp [itemsParsed, h]

theorem itemsParsed_cons (h : parse item ≠ .bad) :
    itemsParsed parse (n + 1) (item :: items) = parse item :: itemsParsed parse n items := by
  simp [itemsParsed, h]

/-- **A loop that stays inside of its items** has a result just if the copies of all that it comes
to succeed. -/
theorem isSome_itemLoop_iff {n i : Nat} {items : List Item} {st : SyncState}
    (hparse : ∀ item, decode item = (parse item).copy P)
    (hin : ∀ j ∈ itemAccesses decode n i items, j < i + items.length) :
    (itemLoop decode store n items st).isSome ↔
      ∀ p ∈ itemsParsed parse n items, (p.copy P).isSome := by
  induction n generalizing i items st with
  | zero => simp [itemLoop, itemsParsed]
  | succ n ih =>
      cases items with
      | nil => exact absurd (hin i List.mem_cons_self) (Nat.lt_irrefl i)
      | cons item items =>
          by_cases hbad : parse item = .bad
          · -- the loop ends here, with a result
            have hdec : decode item = some .bad := by rw [hparse, hbad]; rfl
            rw [itemsParsed_cons_bad hbad, itemLoop, hdec]
            simp
          · rw [itemsParsed_cons hbad, List.forall_mem_cons, ← hparse]
            cases hdec : decode item with
            -- a copy that does not fit ends the program
            | none => rw [itemLoop, hdec]; simp
            | some d =>
                have hne : d ≠ .bad := by
                  rintro rfl
                  exact hbad (Parsed.copy_eq_bad_iff.mp ((hparse item).symm.trans hdec))
                rw [itemAccesses_good ⟨d, hdec, hne⟩] at hin
                rw [itemLoop_good hdec hne, ih (i := i + 1)]
                · exact (and_iff_right rfl).symm
                · intro j hj
                  have := hin j (List.mem_cons_of_mem _ hj)
                  rw [List.length_cons] at this
                  omega

end Loop

section
variable {env : Env} {H : SyncHandler} {parse : Item → Parsed} {s : Session} {m : BaseHeader}
  {inbuffer key : Bytes} {cnt : Int32} {items : List Item}

/-- The handler has a result on a response whose items it stays inside of just if no call
overflows. -/
theorem isSome_buf2RespWith_iff (db : Sql3) (ho : Opens env H s m inbuffer key cnt items)
    (hparse : ∀ item, H.decode item = (parse item).copy env.platform)
    (hin : StaysInside H.decode cnt items) :
    (buf2RespWith env H s m db inbuffer).isSome ↔ ItemsShort env.platform parse cnt items := by
  obtain ⟨u, hu⟩ := buf2RespWith_of_opens db ho
  rw [hu]
  dsimp only
  by_cases hzero : cnt = 0
  · subst hzero
    have hnone : itemsParsed parse (0 : Int32).toInt.toNat items = [] := rfl
    rw [if_pos rfl, ItemsShort, hnone]
    simp
  · have hacc : ∀ j ∈ itemAccesses H.decode cnt.toInt.toNat 0 items, j < 0 + items.length := by
      rw [Nat.zero_add]
      exact hin.accesses
    rw [if_neg hzero, if_neg (not_lt.mpr hin.size), Option.isSome_map,
      isSome_itemLoop_iff hparse hacc]
    simp only [Parsed.isSome_copy_iff, Parsed.forall_calls_iff, ItemsShort]

end

/-- **Which responses keep the copies inside of their arrays**: those whose items have short
fields, up to the first that does not parse.  Where the items are there, the others end the
program; and these get through, as far as it is not a call of `LOG` that ends it. -/
theorem noOverflow_iff_short {env : Env} {s : Session} {m : BaseHeader} {inbuffer key : Bytes}
    {cnt : Int32} {items : List Item} :
    (Opens env (newSyncHandler env) s m inbuffer key cnt items →
      (NoOverflow env.platform (newSyncParse env) cnt items ↔
        ItemsShort env.platform (newSyncParse env) cnt items) ∧
      (StaysInside (newSyncItem env) cnt items → ∀ db,
        ((newSyncBuf2Resp env s m db inbuffer).isSome ↔
          ItemsShort env.platform (newSyncParse env) cnt items))) ∧
    (Opens env (newInitHandler env) s m inbuffer key cnt items →
      (NoOverflow env.platform (newInitParse env) cnt items ↔
        ItemsShort env.platform (newInitParse env) cnt items) ∧
      (StaysInside (newInitItem env) cnt items → ∀ db,
        ((newInitBuf2Resp env s m db inbuffer).isSome ↔
          ItemsShort env.platform (newInitParse env) cnt items))) :=
  ⟨fun h => ⟨noOverflow_iff, fun hin db => isSome_buf2RespWith_iff db h (newSyncItem_eq env) hin⟩,
    fun h => ⟨noOverflow_iff,
      fun hin db => isSome_buf2RespWith_iff db h (newInitItem_eq env) hin⟩⟩

/-! ### A contact with a long name -/

/-- Two responses with short fields overflow nothing, and have results. -/
theorem noOverflow_both :
    (NoOverflow itemsEnv.platform (newSyncParse itemsEnv) 3 [messageItem, wxidItem, ⟨3, []⟩] ∧
      ∀ db, (newSyncBuf2Resp itemsEnv { authInfo := { m_Session := brokenKey } } {} db
        (responseOf 53 itemsBody)).isSome) ∧
    (NoOverflow initEnv.platform (newInitParse initEnv) 2
        [⟨1, [0x08, 0x00]⟩, ⟨2, [0x0a, 0x03, 0x0a, 0x01, 0x77]⟩] ∧
      ∀ db, (newInitBuf2Resp initEnv { authInfo := { m_Session := brokenKey } } {} db
        (responseOf 28 initBody)).isSome) := by
  obtain ⟨hsync, hsyncSome⟩ := noOverflow_iff_short.1 opens_itemsText
  obtain ⟨hinit, hinitSome⟩ := noOverflow_iff_short.2 opens_initText
  have hsyncFits : NoOverflow itemsEnv.platform (newSyncParse itemsEnv) 3
      [messageItem, wxidItem, ⟨3, []⟩] := by
    unfold NoOverflow
    decide +kernel
  have hinitFits : NoOverflow initEnv.platform (newInitParse initEnv) 2
      [⟨1, [0x08, 0x00]⟩, ⟨2, [0x0a, 0x03, 0x0a, 0x01, 0x77]⟩] := by
    unfold NoOverflow
    decide +kernel
  exact ⟨⟨hsyncFits, fun db =>
      (hsyncSome ⟨by decide, by decide +kernel⟩ db).mpr (hsync.mp hsyncFits)⟩,
    hinitFits, fun db => (hinitSome ⟨by decide, by decide +kernel⟩ db).mpr (hinit.mp hinitFits)⟩

/-- The key `k` and a contact whose nickname is of 100 letters. -/
def nameItem : Item :=
  ⟨2, [0x12, 0x68, 0x12, 0x66, 0x0a, 0x64] ++ List.replicate 100 0x61⟩

def nameText : Bytes :=
  [0x12, 0x72, 0x08, 0x01, 0x12, 0x6e, 0x08, 0x02, 0x12, 0x6a] ++ nameItem.payload ++
    [0x22, 0x01, 0x6b]

/-- `nameText` and its padding under AES-128-CBC. -/
def nameBody : Bytes :=
  [0x2b, 0xb8, 0xda, 0xaf, 0x13, 0x10, 0x7c, 0xff, 0x35, 0x6c, 0xb9, 0x08, 0xb0, 0xa8, 0x68, 0xf5,
    0x63, 0x81, 0x2b, 0xd6, 0x76, 0x5c, 0x87, 0x8b, 0xd7, 0x96, 0x8f, 0x4b, 0x75, 0x91, 0xf6, 0xa5,
    0xa2, 0xe3, 0x48, 0x73, 0x2a, 0xf6, 0x6b, 0x4e, 0x8e, 0x7f, 0x7d, 0x6c, 0xe0, 0x18, 0x69, 0x85,
    0xe9, 0x5a, 0xe9, 0x16, 0x23, 0xe7, 0xb5, 0x28, 0xa3, 0xb9, 0x08, 0x2e, 0x76, 0x50, 0x98, 0xc3,
    0xa9, 0xca, 0xc3, 0x1d, 0x1a, 0x89, 0x82, 0x52, 0xb8, 0x18, 0xf2, 0xf0, 0x65, 0x0c, 0x2c, 0x82,
    0x8e, 0x4d, 0x68, 0x6b, 0x8e, 0xf4, 0xdf, 0xba, 0xbe, 0x1d, 0xb4, 0xc4, 0x02, 0x7f, 0x56, 0x00,
    0x3c, 0x3c, 0x4d, 0x9b, 0xa3, 0xee, 0x57, 0xdb, 0x19, 0xe9, 0xac, 0xd6, 0x03, 0x0e, 0xb5, 0xb0,
    0x72, 0xb5, 0x3e, 0xe6, 0x2a, 0x55, 0x4b, 0xec, 0x8b, 0xec, 0xd0, 0x65, 0x6a, 0x54, 0xc0, 0xce]

/-- The libraries on `nameText`. -/
def nameEnv : Env :=
  { plainEnv with
    crypto := decrypting nameBody (nameText ++ List.replicate 9 0x09) rfl
    proto := { plainEnv.proto with
      newSyncResp := fun s => if s = nameText then some ⟨ascii "k", 1, [nameItem]⟩ else none
      commonMsg := fun s =>
        if s = nameItem.payload then
          some ([0x12, 0x66, 0x0a, 0x64] ++ List.replicate 100 0x61)
        else none
      contactInfo := fun s =>
        if s = [0x12, 0x66, 0x0a, 0x64] ++ List.replicate 100 0x61 then
          some ⟨[], List.replicate 100 0x61, [], []⟩
        else none } }

/-- The name and its terminator are one character longer than `nickName`. -/
theorem not_noOverflow : ¬ ∀ (env : Env) (s : Session) (m : BaseHeader) (inbuffer key : Bytes)
    (cnt : Int32) (items : List Item), Opens env (newSyncHandler env) s m inbuffer key cnt items →
    NoOverflow env.platform (newSyncParse env) cnt items := by
  intro h
  have ho : Opens nameEnv (newSyncHandler nameEnv) { authInfo := { m_Session := brokenKey } } {}
      (responseOf 119 nameBody) (ascii "k") 1 [nameItem] :=
    (opens_iff_of_text (show _ = some (some nameText) by decide +kernel)).mpr (by decide +kernel)
  have hfits := h nameEnv _ {} _ _ 1 [nameItem] ho ⟨100, List.replicate 100 0x61⟩
  exact absurd (hfits (by decide +kernel)) (by decide)

end MicroChat
