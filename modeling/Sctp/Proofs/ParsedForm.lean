import Sctp.Proofs.Deferred
import Sctp.Proofs.Projection

/-! The parsed form of a chunk, told from the list of its parameters alone. Every field follows from the values
of the parameters of one type: all of them, or those that are long enough, or the last one. The list is what a
cursor over the parameters yields (`Param.Cursor.Yields`). The main statement is `Chunk.parse_projects`. -/
namespace Sctp

/-- The records that a cursor gives one after the other, up to its first `none`. -/
inductive Param.Cursor.Yields : Param.Cursor → List Param → Prop
  | nothing (cursor : Param.Cursor) (stops : cursor.next.1 = none) : Yields cursor []
  | record (cursor after : Param.Cursor) (param : Param) (rest : List Param)
    (gives : cursor.next = (some param,after)) (later : Yields after rest) : Yields cursor (param :: rest)

theorem Param.Cursor.yields_toList (cursor : Param.Cursor) : cursor.Yields cursor.toList := by
  generalize listed : cursor.toList = params
  induction params generalizing cursor with
  | nil =>
    rw [toList_eq_next] at listed
    split at listed
    · cases listed
    · rename_i next
      exact .nothing cursor (congrArg Prod.fst next)
  | cons param rest ih =>
    rw [toList_eq_next] at listed
    split at listed
    · rename_i next
      obtain ⟨rfl,later⟩ := List.cons.inj listed
      exact .record cursor _ _ rest next (ih _ later)
    · cases listed

def bigEndian (octets : Bytes) : Nat := octets.foldl (fun number octet => number * 256 + octet.toNat) 0

theorem bigEndian_two (a b : UInt8) : bigEndian [a,b] = (word16 a b).toNat := by
  simp only [bigEndian,toNat_word16,List.foldl_cons,List.foldl_nil]
  omega

theorem bigEndian_four (a b c d : UInt8) : bigEndian [a,b,c,d] = (word32 a b c d).toNat := by
  simp only [bigEndian,toNat_word32,List.foldl_cons,List.foldl_nil]
  omega

/-- The words that a value holds as a whole; a last odd octet belongs to none. -/
def wholeWords (value : Bytes) : List Nat :=
  (List.range (value.length / 2)).map fun i => bigEndian ((value.drop (2 * i)).take 2)

theorem wholeWords_cons_cons (a b : UInt8) (rest : Bytes) :
    wholeWords (a :: b :: rest) = bigEndian [a,b] :: wholeWords rest := by
  have half : (a :: b :: rest).length / 2 = rest.length / 2 + 1 := by
    simp only [List.length_cons]
    omega
  simp only [wholeWords,half,List.range_succ_eq_map,List.map_cons,List.map_map]
  rfl

theorem toNat_words16 (value : Bytes) : (words16 value).map UInt16.toNat = wholeWords value := by
  fun_induction words16 value with
  | case1 a b rest ih => rw [List.map_cons,ih,wholeWords_cons_cons,bigEndian_two]
  | case2 value short =>
    match value with
    | [] | [_] => simp [wholeWords]
    | a :: b :: rest => exact (short a b rest rfl).elim

def valuesOf (code : UInt16) (params : List Param) : List Bytes :=
  (params.filter (·.code = code)).map Param.value

theorem filterMap_valuesOf {Field : Type} (code : UInt16) (field? : Bytes → Option Field) (params : List Param) :
    (params.filterMap fun param => if param.code = code then field? param.value else none) =
      (valuesOf code params).filterMap field? := by
  rw [valuesOf,List.filterMap_map,List.filterMap_filter]
  simp only [decide_eq_true_eq,Function.comp_apply]

theorem flatMap_valuesOf {Field : Type} (code : UInt16) (fields : Bytes → List Field) (params : List Param) :
    (params.flatMap fun param => if param.code = code then fields param.value else []) =
      (valuesOf code params).flatMap fields := by
  induction params with
  | nil => rfl
  | cons param rest ih =>
    rw [List.flatMap_cons,ih,valuesOf,valuesOf]
    by_cases same : param.code = code
    · simp [same]
    · simp [same]

/-- The first octets of the values that have so many. -/
def fronts (size : Nat) (values : List Bytes) : List Bytes :=
  (values.filter (size ≤ ·.length)).map (·.take size)

/-- A reader that makes something of the first octets of a value, and of no others. -/
theorem map_filterMap_fronts {Field Front : Type} {size : Nat} {field? : Bytes → Option Field}
    {shown : Field → Front} {front : Bytes → Front}
    (long : ∀ value, size ≤ value.length → (field? value).map shown = some (front (value.take size)))
    (short : ∀ value, value.length < size → field? value = none) (values : List Bytes) :
    (values.filterMap field?).map shown = (fronts size values).map front := by
  have each : ∀ value : Bytes, (field? value).map shown =
      if size ≤ value.length then some (front (value.take size)) else none := by
    intro value
    split
    · rename_i enough
      exact long value enough
    · rename_i few
      rw [short value (Nat.not_le.mp few),Option.map_none]
  rw [fronts,List.map_map,List.map_filterMap,← List.filterMap_eq_map,List.filterMap_filter]
  simp only [each,decide_eq_true_eq,Function.comp_apply]

structure Addresses.Lists (addresses : Addresses) (params : List Param) : Prop where
  ipv4 : addresses.ipv4.map Ipv4.octets = fronts 4 (valuesOf 5 params)
  ipv6 : addresses.ipv6.map Ipv6.octets = fronts 16 (valuesOf 6 params)
  hostNames : addresses.hostNames =
    (valuesOf 11 params).map fun value => Text.Utf8.decode (value.take (value.idxOf 0))

theorem Addresses.lists_ofParams (params : List Param) : (ofParams params).Lists params where
  ipv4 := by
    change (params.filterMap fun param => if param.code = 5 then Ipv4.ofPrefix? param.value else none).map _ = _
    rw [filterMap_valuesOf,← List.map_id (fronts 4 (valuesOf 5 params))]
    apply map_filterMap_fronts
    · intro value enough
      simp [Ipv4.ofPrefix?,enough]
    · intro value few
      simp [Ipv4.ofPrefix?,few]
  ipv6 := by
    change (params.filterMap fun param => if param.code = 6 then Ipv6.ofPrefix? param.value else none).map _ = _
    rw [filterMap_valuesOf,← List.map_id (fronts 16 (valuesOf 6 params))]
    apply map_filterMap_fronts
    · intro value enough
      simp [Ipv6.ofPrefix?,enough]
    · intro value few
      simp [Ipv6.ofPrefix?,few]
  hostNames := by
    have name : ∀ value : Bytes, value.takeWhile (· != 0) = value.take (value.idxOf 0) := by
      intro value
      rw [List.takeWhile_eq_take_findIdx_not,List.idxOf]
      simp only [bne,Bool.not_not]
    change (params.filterMap fun param => if param.code = 11 then
      some (Text.Utf8.decode (param.value.takeWhile (· != 0))) else none) = _
    rw [filterMap_valuesOf 11 fun value => some (Text.Utf8.decode (value.takeWhile (· != 0))),
      List.filterMap_eq_map']
    simp only [name]

structure InitParams.Lists (found : InitParams) (params : List Param) : Prop where
  addresses : found.addresses.Lists params
  cookieLife : found.cookieLife.toNat = ((fronts 4 (valuesOf 9 params)).getLast?.map bigEndian).getD 0
  supported : found.supported.map UInt16.toNat = (valuesOf 12 params).flatMap wholeWords

theorem InitParams.lists_ofParams (params : List Param) : (ofParams params).Lists params := by
  rw [ofParams_eq]
  refine ⟨Addresses.lists_ofParams params,?cookieLife,?supported⟩
  case cookieLife =>
    have read : (params.filterMap Param.cookieLife?).map UInt32.toNat =
        (fronts 4 (valuesOf 9 params)).map bigEndian := by
      change (params.filterMap fun param =>
        if param.code = 9 then Param.number? ⟨0,0,param.value⟩ else none).map _ = _
      rw [filterMap_valuesOf 9 fun value => Param.number? ⟨0,0,value⟩]
      apply map_filterMap_fronts
      · intro value enough
        match value, enough with
        | a :: b :: c :: d :: rest, _ => exact congrArg some (bigEndian_four a b c d).symm
      · intro value few
        match value, few with
        | [], _ | [_], _ | [_,_], _ | [_,_,_], _ => rfl
    rw [← List.getLast?_map,← read,List.getLast?_map]
    cases (params.filterMap Param.cookieLife?).getLast? <;> rfl
  case supported =>
    change (params.flatMap fun param => if param.code = 12 then words16 param.value else []).map _ = _
    rw [flatMap_valuesOf,List.map_flatMap]
    simp only [toNat_words16]

structure InitAckParams.Lists (found : InitAckParams) (params : List Param) : Prop where
  addresses : found.addresses.Lists params
  stateCookie : found.stateCookie = (valuesOf 7 params).getLast?
  unrecognized : found.unrecognized = (valuesOf 8 params).flatMap Param.walk

theorem getLast?_filterMap_value (code : UInt16) (params : List Param) :
    (params.filterMap fun param => if param.code = code then some param.value else none).getLast? =
      (valuesOf code params).getLast? := by
  rw [filterMap_valuesOf code some,List.filterMap_some]

theorem InitAckParams.lists_ofParams (params : List Param) : (ofParams params).Lists params := by
  rw [ofParams_eq]
  exact ⟨Addresses.lists_ofParams params,getLast?_filterMap_value 7 params,flatMap_valuesOf 8 Param.walk params⟩

theorem heartbeatInfo_eq_last (params : List Param) : heartbeatInfo params = (valuesOf 1 params).getLast? :=
  (heartbeatInfo_eq params).trans (getLast?_filterMap_value 1 params)

/-- From what a chunk holds before its parameters are read to what it holds behind that: the fixed fields are
the same, and the rest follows from the list of the parameters. -/
inductive Content.Projects (params : List Param) : Content → Content → Prop
  | init (fields : InitFields) (found : InitParams) (lists : found.Lists params) :
    Projects params (.init fields none) (.init fields (some found))
  | initAck (fields : InitFields) (found : InitAckParams) (lists : found.Lists params) :
    Projects params (.initAck fields none) (.initAck fields (some found))
  | heartbeat : Projects params (.heartbeat none) (.heartbeat (some (valuesOf 1 params).getLast?))
  | heartbeatAck : Projects params (.heartbeatAck none) (.heartbeatAck (some (valuesOf 1 params).getLast?))
  | abort : Projects params (.abort none) (.abort (some params))
  | error : Projects params (.error none) (.error (some params))

/-- Content of a deferred kind that is still unread has an area of parameters, and is read from it. -/
theorem Content.projects_parse (body : Bytes) (content : Content) (deferred : content.kind.isDeferred = true)
    (unread : content.isParsed = false) :
    ∃ area, content.paramArea? body = some area ∧ Projects (Param.walk area) content (content.parse body) := by
  cases content with
  | init fields found =>
    cases found with
    | none => exact ⟨_,rfl,.init fields _ (InitParams.lists_ofParams _)⟩
    | some _ => cases unread
  | initAck fields found =>
    cases found with
    | none => exact ⟨_,rfl,.initAck fields _ (InitAckParams.lists_ofParams _)⟩
    | some _ => cases unread
  | heartbeat info | heartbeatAck info =>
    cases info with
    | none =>
      refine ⟨body,rfl,?_⟩
      rw [parse,heartbeatInfo_eq_last]
      constructor
    | some _ => cases unread
  | abort causes | error causes =>
    cases causes with
    | none => exact ⟨body,rfl,by constructor⟩
    | some _ => cases unread
  | _ => cases deferred

namespace Chunk

/-- A chunk of a deferred kind holds, once it is parsed, what the list of its parameters says, and this list is
what a cursor over its parameters yields. -/
theorem parse_projects (raw : RawChunk) (deferred : (ofRaw raw).kind.isDeferred = true) :
    ∃ area params, (ofRaw raw).content.paramArea? raw.body = some area ∧
      (Param.Cursor.start area).Yields params ∧ (ofRaw raw).params? = some params ∧
      Content.Projects params (ofRaw raw).content (ofRaw raw).parse.content ∧ (ofRaw raw).parse.raw = raw := by
  have unread : (Content.ofRaw raw).isParsed = false := by
    rw [Content.isParsed_ofRaw]
    exact congrArg (!·) deferred
  obtain ⟨area,found,projects⟩ := Content.projects_parse raw.body (Content.ofRaw raw) deferred unread
  exact ⟨area,Param.walk area,found,Param.Cursor.yields_toList (.start area),congrArg (Option.map Param.walk) found,
    projects,rfl⟩

/-- An INIT ACK with an address, a short address, two state cookies and a wrapper of two parameters. -/
def repetitiveInitAck : RawChunk where
  lead := 2
  flags := 0
  declared := 76
  body :=
    [0, 0, 0, 7, 0, 1, 0, 0, 0, 10, 0, 10, 0, 0, 0, 3,
      0, 7, 0, 5, 1, 0, 0, 0, 0, 5, 0, 8, 10, 0, 0, 1, 0, 5, 0, 6, 10, 0, 0, 0,
      0, 8, 0, 16, 0x80, 8, 0, 6, 1, 2, 0, 0, 0xC0, 0, 0, 4, 0, 7, 0, 6, 2, 3, 0, 0, 0, 11, 0, 6, 0x61, 0, 0, 0]
  index := 0

theorem parse_projects_repetitiveInitAck :
    (ofRaw repetitiveInitAck).kind.isDeferred = true ∧
      ∃ area params, (ofRaw repetitiveInitAck).content.paramArea? repetitiveInitAck.body = some area ∧
        (Param.Cursor.start area).Yields params ∧ (ofRaw repetitiveInitAck).params? = some params ∧
        Content.Projects params (ofRaw repetitiveInitAck).content (ofRaw repetitiveInitAck).parse.content ∧
        (ofRaw repetitiveInitAck).parse.raw = repetitiveInitAck :=
  ⟨by decide,parse_projects repetitiveInitAck (by decide)⟩

end Chunk

end Sctp
