import DepositDirectory.Proofs.Http.Endpoint

/-!
# What a request asks for

The components that a call puts behind the base are its segments with escapes, and undoing the
escapes gives the segments back, so that a request asks for the resource of one call only.  This is
so for plain ids.  Dots and ids with tabs or line breaks are not written as they are, and a call
with one of them makes the request of another call.
-/

namespace DepositDirectory.Http

open Custody (Call CallError)
open Url (Climbs InOrder Orderly Plain clean component openComponent)

/-! ## Segments and components -/

theorem unescaped?_percentEncode (segment : List Char) :
    Client.unescaped? (Url.percentEncode Url.webSegmentSet segment) = some segment := by
  rw [Client.unescaped?, Url.percentDecode_percentEncode (by decide), Text.ofUtf8?_utf8]

/-- Undoing the escapes of its component gives a text back exactly when it is plain. -/
theorem unescaped?_component_iff (segment : List Char) :
    Client.unescaped? (component segment) = some segment ↔ Plain segment := by
  constructor
  · intro decoded
    by_cases dots : clean segment = ['.'] ∨ clean segment = ['.', '.']
    · have nothing : segment = [] := by
        rw [component, if_pos dots, Client.unescaped?, Text.utf8_nil, Url.percentDecode,
          Text.ofUtf8?] at decoded
        exact (Option.some.inj decoded).symm
      subst nothing
      exact absurd dots (by decide)
    · rw [component, if_neg dots, unescaped?_percentEncode] at decoded
      have undropped := Option.some.inj decoded
      rw [undropped, not_or] at dots
      exact ⟨undropped, dots.1, dots.2⟩
  · intro plain
    rw [Url.component_of_plain plain, unescaped?_percentEncode]

def rival (segment : String) : String :=
  if segment = "." then ".." else if segment = ".." then "." else "\t" ++ segment

theorem rival_ne (segment : String) : rival segment ≠ segment := by
  unfold rival
  split
  · rintro rfl
    contradiction
  · split
    · rintro rfl
      contradiction
    · intro same
      have lengths := congrArg String.length same
      rw [String.length_append] at lengths
      exact absurd lengths (by simp)

theorem addSegment_rival {scheme : List Char} (special : Url.isSpecial scheme = true)
    (noFile : Url.isFile scheme = false) (components : List (List Char)) (segment : String) :
    Url.addSegment scheme components (rival segment).toList =
      Url.addSegment scheme components segment.toList := by
  unfold rival
  split
  · rename_i one
    subst one
    exact (if_pos (Or.inr rfl)).trans (if_pos (Or.inl rfl)).symm
  · split
    · rename_i two
      subst two
      exact (if_pos (Or.inl rfl)).trans (if_pos (Or.inr rfl)).symm
    · rename_i notOne notTwo
      have dots : ¬ (segment.toList = ['.'] ∨ segment.toList = ['.', '.']) := by
        rintro (one | two)
        · exact notOne (String.toList_inj.mp one)
        · exact notTwo (String.toList_inj.mp two)
      rw [String.toList_append]
      exact Url.addSegment_tabbed special noFile components dots

/-! ## Calls and requests -/

namespace Client

/-- Whether all ids of a call are plain. -/
def PlainCall (call : Call) : Prop :=
  ∀ segment ∈ segments call, Plain segment.toList

/-- The request that a client makes for a call, if the base takes the segments of the call. -/
def requestFor (client : Client) (call : Call) : Except CallError Request :=
  (endpoint client.base (segments call)).map (client.request · (query call))

theorem eq_of_segments_eq {c d : Call} (first : query c = []) (other : query d = [])
    (same : segments c = segments d) : c = d := by
  cases c with
  | listVaults cursor =>
      cases d with
      | listVaults last =>
          cases cursor with
          | none =>
              cases last with
              | none => rfl
              | some _ => cases other
          | some _ => cases first
      | _ => simp [segments] at same
  | depositAddresses vaultId assetId => cases d <;> simp_all [segments]
  | assetDetails assetId => cases d <;> simp_all [segments]
  | assetBalance vaultId assetId => cases d <;> simp_all [segments]

theorem plainCall_listVaults : PlainCall (.listVaults none) := by
  have plain : ∀ segment ∈ segments (.listVaults none), clean segment.toList = segment.toList ∧
      segment.toList ≠ ['.'] ∧ segment.toList ≠ ['.', '.'] := by decide
  intro segment member
  obtain ⟨undropped, notOne, notTwo⟩ := plain segment member
  exact ⟨undropped, notOne, notTwo⟩

theorem segments_eq_cons (call : Call) : ∃ rest, segments call = "v1" :: rest := by
  cases call <;> exact ⟨_, rfl⟩

theorem request_withPath (client : Client) (base : Url) (path : Url.Path)
    (query : List (String × String)) :
    (client.request { base with path := path } query).url =
      { (client.request base query).url with path := path } := by
  have host : ({ base with path := path } : Url).hasHost = base.hasHost := rfl
  have basic : basicAuthorization? { base with path := path } = basicAuthorization? base := rfl
  unfold request
  rw [host, basic]
  cases base.hasHost <;> cases basicAuthorization? base <;> rfl

theorem chars_eq_of_request_text_eq (client : Client) {base : Url} {path other : Url.Path}
    {query : List (String × String)}
    (same : (client.request { base with path := path } query).url.text =
      (client.request { base with path := other } query).url.text) :
    path.chars = other.chars := by
  rw [client.request_withPath base path, client.request_withPath base other] at same
  generalize (client.request base query).url = url at same
  have chars := String.ofList_injective same
  exact List.append_cancel_left (List.append_cancel_right (List.append_cancel_right chars))

end Client

/-! ## The path of a request -/

section Base

variable {client : Client} (orderly : Orderly client.base) (web : isWeb client.base)

include orderly in
theorem requestFor_eq (call : Call) :
    client.requestFor call = .ok (client.request
      { client.base with path := .parts (placed client.base (Client.segments call)) }
      (Client.query call)) := by
  rw [Client.requestFor, Client.endpoint, addSegments?_eq orderly]
  rfl

include orderly web in
theorem named_request {call : Call} {request : Request}
    (made : client.requestFor call = .ok request) :
    named request.url = openComponent (placed client.base (Client.segments call)) := by
  rw [requestFor_eq orderly] at made
  cases made
  rw [Client.request_withPath]
  exact named_of_inOrder rfl (inOrder_placed orderly web _)

include web in
/-- Plain segments are found behind the base, each as its component. -/
theorem placed_of_plain {call : Call} (plain : Client.PlainCall call) :
    openComponent (placed client.base (Client.segments call)) =
      openComponent (placed client.base []) ++
        (Client.segments call).map fun segment => component segment.toList := by
  obtain ⟨rest, cons⟩ := Client.segments_eq_cons call
  have special := Url.isSpecial_of_isWeb web
  have noFile := isFile_of_isWeb web
  rw [Client.PlainCall, cons] at plain
  have first := Url.openComponent_addSegment_of_plain special noFile (placed client.base [])
    (plain "v1" List.mem_cons_self) (Or.inr (by decide))
  have proper : openComponent (Url.addSegment client.base.scheme (placed client.base [])
      "v1".toList) ≠ [] := by
    rw [first]
    exact List.append_ne_nil_of_right_ne_nil _ (List.cons_ne_nil _ _)
  have others : ∀ segment ∈ rest.map String.toList, Plain segment := by
    intro segment member
    obtain ⟨text, among, rfl⟩ := List.mem_map.mp member
    exact plain text (List.mem_cons_of_mem _ among)
  have run := Url.openComponent_foldl_of_plain special noFile proper others
  rw [first, List.map_map] at run
  rw [cons, List.map_cons]
  exact run.trans (by rw [List.append_assoc]; rfl)

include orderly web

/-- The segments are found behind the base, one component each, only where they are plain. -/
theorem plain_of_decoded {call : Call} {rest : List (List Char)}
    (found : openComponent (placed client.base (Client.segments call)) = kept client.base ++ rest)
    (decoded : rest.map Client.unescaped? =
      (Client.segments call).map fun segment => some segment.toList) :
    openComponent (placed client.base []) = kept client.base ∧ Client.PlainCall call := by
  obtain ⟨bounded, exactly⟩ := Url.length_openComponent_foldl (Url.isSpecial_of_isWeb web)
    (isFile_of_isWeb web) (placed client.base []) ((Client.segments call).map String.toList)
  have counted : rest.length = (Client.segments call).length := by
    simpa using congrArg List.length decoded
  have whole := congrArg List.length found
  have fewer := length_placed_nil_le orderly web
  rw [List.length_map] at bounded exactly
  rw [List.length_append, counted] at whole
  have appended := found.symm.trans (exactly (Nat.le_antisymm bounded
    ((Nat.add_le_add_right fewer _).trans whole.ge)))
  have sameLength : (kept client.base).length = (openComponent (placed client.base [])).length :=
    Nat.le_antisymm (Nat.le_of_add_le_add_right (whole.ge.trans bounded)) fewer
  obtain ⟨start, components⟩ := List.append_inj appended sameLength
  refine ⟨start.symm, fun segment member => (unescaped?_component_iff _).mp ?_⟩
  rw [components, List.map_map, List.map_map] at decoded
  exact List.map_inj_left.mp decoded segment member

/-- A call that is plain has a component for each segment, from which the segment is read. -/
theorem decoded_iff {call : Call} {request : Request}
    (made : client.requestFor call = .ok request) :
    (∃ rest, named request.url = kept client.base ++ rest ∧
        rest.map Client.unescaped? =
          (Client.segments call).map fun segment => some segment.toList) ↔
      client.base.path ≠ .parts [[], []] ∧ Client.PlainCall call := by
  rw [named_request orderly web made, ← named_extended_nil_iff orderly web,
    named_extended orderly web]
  constructor
  · rintro ⟨rest, found, decoded⟩
    exact plain_of_decoded orderly web found decoded
  · rintro ⟨start, plain⟩
    refine ⟨_, (placed_of_plain web plain).trans (by rw [start]), ?_⟩
    rw [List.map_map]
    exact List.map_inj_left.mpr fun segment member =>
      (unescaped?_component_iff _).mpr (plain segment member)

theorem eq_of_text_eq {c d : Call} (first : Client.query c = []) (other : Client.query d = [])
    (plain : Client.PlainCall c) (too : Client.PlainCall d) {one two : Request}
    (made : client.requestFor c = .ok one) (madeToo : client.requestFor d = .ok two)
    (same : one.url.text = two.url.text) : c = d := by
  have ordered := inOrder_placed orderly web
  rw [requestFor_eq orderly] at made madeToo
  cases made
  cases madeToo
  rw [first, other] at same
  have chars := client.chars_eq_of_request_text_eq same
  have components : placed client.base (Client.segments c) =
      placed client.base (Client.segments d) := by
    rw [← (ordered _).splitSlashes_chars, chars, (ordered _).splitSlashes_chars]
  have parts := congrArg openComponent components
  rw [placed_of_plain web plain, placed_of_plain web too] at parts
  have decoded := congrArg (List.map Client.unescaped?) (List.append_cancel_left parts)
  rw [List.map_map, List.map_map] at decoded
  have read {call : Call} (plain : Client.PlainCall call) :
      (Client.segments call).map (Client.unescaped? ∘ fun segment => component segment.toList) =
        (Client.segments call).map fun segment => some segment.toList :=
    List.map_inj_left.mpr fun segment member =>
      (unescaped?_component_iff _).mpr (plain segment member)
  rw [read plain, read too] at decoded
  have injective : Function.Injective fun segment : String => some segment.toList :=
    fun _ _ both => String.toList_inj.mp (Option.some.inj both)
  exact Client.eq_of_segments_eq first other (List.map_injective_iff.mpr injective decoded)

theorem requestFor_rival {call other : Call} (before : List String) {after : List String}
    {segment : String}
    (here : Client.segments call = before ++ segment :: after)
    (there : Client.segments other = before ++ rival segment :: after)
    (asked : Client.query other = Client.query call) :
    client.requestFor other = client.requestFor call := by
  have same : placed client.base (before ++ rival segment :: after) =
      placed client.base (before ++ segment :: after) := by
    simp only [placed, List.map_append, List.map_cons, List.foldl_append, List.foldl_cons]
    rw [addSegment_rival (Url.isSpecial_of_isWeb web) (isFile_of_isWeb web)]
  rw [requestFor_eq orderly, requestFor_eq orderly, here, there, same, asked]

theorem exists_rival {call : Call} (first : Client.query call = [])
    (slips : ¬ Client.PlainCall call) :
    ∃ other, other ≠ call ∧ Client.query other = [] ∧
      client.requestFor other = client.requestFor call := by
  cases call with
  | listVaults cursor =>
      cases cursor with
      | none => exact absurd Client.plainCall_listVaults slips
      | some _ => cases first
  | depositAddresses vaultId assetId =>
      refine ⟨.depositAddresses (rival vaultId) assetId, ?_, rfl,
        requestFor_rival orderly web ["v1", "vault", "accounts"] rfl rfl rfl⟩
      exact fun same => rival_ne vaultId (Call.depositAddresses.inj same).1
  | assetDetails assetId =>
      refine ⟨.assetDetails (rival assetId), ?_, rfl,
        requestFor_rival orderly web ["v1", "assets"] rfl rfl rfl⟩
      exact fun same => rival_ne assetId (Call.assetDetails.inj same)
  | assetBalance vaultId assetId =>
      refine ⟨.assetBalance (rival vaultId) assetId, ?_, rfl,
        requestFor_rival orderly web ["v1", "vault", "accounts"] rfl rfl rfl⟩
      exact fun same => rival_ne vaultId (Call.assetBalance.inj same).1

end Base

/--
The request of a call that asks for no later page has a component for each segment behind those of
the base, from which the segment is read when the escapes are undone, exactly when all ids of the
call are plain and the path of the base is not two slashes.  The requests of two plain calls are for
one URL only if the calls are the same; a call that is not plain makes the request of another.
-/
theorem request_identifies_iff {text : String} (client : Client)
    (read : Url.read text = .ok client.base) (web : isWeb client.base) (call : Call)
    (first : Client.query call = []) :
    ∃ request, client.requestFor call = .ok request ∧
      ((∃ rest, named request.url = kept client.base ++ rest ∧
          rest.map Client.unescaped? =
            (Client.segments call).map fun segment => some segment.toList) ↔
        client.base.path ≠ .parts [[], []] ∧ Client.PlainCall call) ∧
      (Client.PlainCall call → ∀ other requestToo, Client.query other = [] →
        Client.PlainCall other → client.requestFor other = .ok requestToo →
        request.url.text = requestToo.url.text → call = other) ∧
      (¬ Client.PlainCall call → ∃ other, other ≠ call ∧ Client.query other = [] ∧
        client.requestFor other = .ok request) := by
  have orderly := Url.orderly_of_read read web
  have made := requestFor_eq orderly call
  refine ⟨_, made, decoded_iff orderly web made, ?_, ?_⟩
  · intro plain other requestToo firstToo too madeToo same
    exact eq_of_text_eq orderly web first firstToo plain too made madeToo same
  · intro slips
    obtain ⟨other, different, firstToo, same⟩ := exists_rival orderly web first slips
    exact ⟨other, different, firstToo, same.trans made⟩

/-! ## Clients of one base -/

def custodyClient : Client :=
  ⟨custodyBase, "key", some "Bearer token", .empty⟩

/-- Ids with slashes, marks of a query and escapes of their own are found in the request. -/
theorem escaped_ids_identified :
    ∃ request, custodyClient.requestFor (.assetBalance "V/1?" "A%2F1") = .ok request ∧
      ∃ rest, named request.url = kept custodyBase ++ rest ∧
        rest.map Client.unescaped? = (Client.segments (.assetBalance "V/1?" "A%2F1")).map
          fun segment => some segment.toList := by
  obtain ⟨request, made, exactly, _⟩ := request_identifies_iff custodyClient
    read_custodyBase (by decide) (.assetBalance "V/1?" "A%2F1") rfl
  have plain : ∀ segment ∈ Client.segments (.assetBalance "V/1?" "A%2F1"),
      clean segment.toList = segment.toList ∧ segment.toList ≠ ['.'] ∧
        segment.toList ≠ ['.', '.'] := by decide
  refine ⟨request, made, exactly.mpr ⟨by decide, fun segment member => ?_⟩⟩
  obtain ⟨undropped, notOne, notTwo⟩ := plain segment member
  exact ⟨undropped, notOne, notTwo⟩

/-- The details of two assets, and addresses and a balance, are asked for by one request. -/
theorem dropped_ids_share_request :
    custodyClient.requestFor (.assetDetails "A\tB") =
        custodyClient.requestFor (.assetDetails "AB") ∧
      custodyClient.requestFor (.depositAddresses "." "A1") =
        custodyClient.requestFor (.assetBalance "A1" "addresses") :=
  ⟨rfl, rfl⟩

end DepositDirectory.Http
