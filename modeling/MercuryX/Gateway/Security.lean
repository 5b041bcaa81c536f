import MercuryX.Gateway.Results
import MercuryX.Gateway.Session

/-!
# The security evaluation

The gateway looks through the input and the context of a request for keys that name secrets, and
through the context for values under tenant keys. It works on paths: a path joins the keys that lead
to a value with dots, and what is inspected is the part of the path after its last dot. A key with a
dot of its own is therefore inspected in part.
-/

namespace MercuryX
namespace Gateway

open Foundation

/-! ## Keys -/

/-- The lower case of a character, as far as ASCII is concerned: besides the ASCII capitals, the
Kelvin sign and the dotted capital I are the only characters whose lower case has an ASCII
character. Other characters stay, since their lower case is in no marker and no tenant key. -/
def lowerChar (c : Char) : List Char :=
  if 'A' ≤ c ∧ c ≤ 'Z' then [Char.ofNat (c.toNat + 32)]
  else if c = Char.ofNat 0x212A then [ 'k']
  else if c = Char.ofNat 0x0130 then [ 'i', Char.ofNat 0x0307]
  else [c]

/-- The lower case of a text. -/
def lower (chars : List Char) : List Char := chars.flatMap lowerChar

/-- The part of a text after its last dot, or all of it. -/
def lastSegment (chars : List Char) : List Char :=
  (chars.reverse.takeWhile fun c => c ≠ '.').reverse

/-- What the key of a secret contains. -/
def sensitiveMarkers : List String := ["token", "credential", "secret", "api_key"]

/-- The text contains a marker, ignoring case. -/
def Sensitive (chars : List Char) : Prop :=
  ∃ marker ∈ sensitiveMarkers, marker.toList <:+: lower chars

instance (chars : List Char) : Decidable (Sensitive chars) :=
  inferInstanceAs (Decidable (∃ marker ∈ sensitiveMarkers, marker.toList <:+: lower chars))

/-- The text is a tenant key, ignoring case. -/
def NamesTenant (chars : List Char) : Prop :=
  lower chars ∈ ["tenant_id".toList, "context_tenant_id".toList]

instance (chars : List Char) : Decidable (NamesTenant chars) :=
  inferInstanceAs (Decidable (_ ∈ _))

/-! ## Paths -/

mutual

/-- The paths of all values below a value, with the values; each path ends with a key. -/
def walkMetadata : Payload → String → List (String × Payload)
  | .dict entries, path => walkEntries entries path
  | .items kind members, path => if kind.unordered then [] else walkMembers members path 0
  | _, _ => []
termination_by structural value => value

/-- The paths below the entries of a dictionary. -/
def walkEntries : List (String × Payload) → String → List (String × Payload)
  | [], _ => []
  | (key, child) :: entries, path =>
      (path ++ "." ++ key, child) ::
        (walkMetadata child (path ++ "." ++ key) ++ walkEntries entries path)

/-- The paths below the members of a list, from an index on. -/
def walkMembers : List Payload → String → Nat → List (String × Payload)
  | [], _, _ => []
  | member :: members, path, index =>
      walkMetadata member (path ++ "[" ++ toString index ++ "]") ++
        walkMembers members path (index + 1)

end

/-- A value holds another under a key, at some depth. The members of sets can be hashed, so none of
them holds a dictionary. -/
inductive Payload.Stores : Payload → String → Payload → Prop
  | entry {entries : List (String × Payload)} {key : String} {child : Payload}
      (member : (key, child) ∈ entries) : Stores (.dict entries) key child
  | within {entries : List (String × Payload)} {outer key : String} {inner child : Payload}
      (member : (outer, inner) ∈ entries) (stores : Stores inner key child) :
      Stores (.dict entries) key child
  | among {kind : CollectionKind} {members : List Payload} {inner child : Payload} {key : String}
      (ordered : kind.unordered = false) (member : inner ∈ members)
      (stores : Stores inner key child) : Stores (.items kind members) key child

section Walk

theorem lastSegment_append_dot (front key : List Char) :
    lastSegment (front ++ '.' :: key) = lastSegment key := by
  rw [lastSegment, lastSegment, List.reverse_append, List.reverse_cons, List.append_assoc,
    List.takeWhile_append]
  split
  · next whole =>
      have plain : key.reverse.takeWhile (fun c => c ≠ '.') = key.reverse :=
        (List.takeWhile_prefix _).eq_of_length whole
      rw [plain]
      simp
  · rfl

theorem toList_childPath (path key : String) :
    (path ++ "." ++ key).toList = path.toList ++ '.' :: key.toList := by
  simp

mutual

theorem stores_of_mem_walk : (value : Payload) → (path : String) →
    ∀ entry ∈ walkMetadata value path, ∃ front key, entry.1 = path ++ front ++ "." ++ key ∧
      value.Stores key entry.2
  | .dict entries, path => by
      intro entry member
      obtain ⟨front, key, isPath, stores⟩ := stores_of_mem_walkEntries entries path entry member
      exact ⟨front, key, isPath, stores⟩
  | .items kind members, path => by
      intro entry member
      rw [walkMetadata] at member
      split at member
      · exact absurd member List.not_mem_nil
      · next ordered =>
          obtain ⟨front, key, isPath, inner, inside, stores⟩ :=
            stores_of_mem_walkMembers members path 0 entry member
          exact ⟨front, key, isPath, .among (Bool.eq_false_iff.mpr ordered) inside stores⟩
  | .none, _ | .bool _, _ | .number _, _ | .notANumber _, _ | .infinite _, _ | .text _, _ => by
      intro entry member
      exact absurd member List.not_mem_nil

theorem stores_of_mem_walkEntries : (entries : List (String × Payload)) → (path : String) →
    ∀ entry ∈ walkEntries entries path, ∃ front key, entry.1 = path ++ front ++ "." ++ key ∧
      (Payload.dict entries).Stores key entry.2
  | [], _ => by
      intro entry member
      exact absurd member List.not_mem_nil
  | (key, child) :: entries, path => by
      intro entry member
      rcases List.mem_cons.mp member with rfl | later
      · exact ⟨"", key, by simp, .entry List.mem_cons_self⟩
      rcases List.mem_append.mp later with inside | after
      · obtain ⟨front, innerKey, isPath, stores⟩ := stores_of_mem_walk child _ entry inside
        refine ⟨"." ++ key ++ front, innerKey, ?_, .within List.mem_cons_self stores⟩
        rw [isPath]
        simp only [String.append_assoc]
      · obtain ⟨front, innerKey, isPath, stores⟩ :=
          stores_of_mem_walkEntries entries path entry after
        refine ⟨front, innerKey, isPath, ?_⟩
        cases stores with
        | entry member => exact .entry (List.mem_cons_of_mem _ member)
        | within member stores => exact .within (List.mem_cons_of_mem _ member) stores

theorem stores_of_mem_walkMembers : (members : List Payload) → (path : String) → (index : Nat) →
    ∀ entry ∈ walkMembers members path index, ∃ front key, entry.1 = path ++ front ++ "." ++ key ∧
      ∃ inner ∈ members, inner.Stores key entry.2
  | [], _, _ => by
      intro entry member
      exact absurd member List.not_mem_nil
  | member :: members, path, index => by
      intro entry inside
      rcases List.mem_append.mp inside with within | after
      · obtain ⟨front, key, isPath, stores⟩ := stores_of_mem_walk member _ entry within
        refine ⟨"[" ++ toString index ++ "]" ++ front, key, ?_, member, List.mem_cons_self, stores⟩
        rw [isPath]
        simp only [String.append_assoc]
      · obtain ⟨front, key, isPath, inner, among, stores⟩ :=
          stores_of_mem_walkMembers members path (index + 1) entry after
        exact ⟨front, key, isPath, inner, List.mem_cons_of_mem _ among, stores⟩

end

theorem mem_walkEntries {entries : List (String × Payload)} {key : String} {child : Payload}
    (member : (key, child) ∈ entries) (path : String) {entry : String × Payload}
    (walked : entry = (path ++ "." ++ key, child) ∨
      entry ∈ walkMetadata child (path ++ "." ++ key)) :
    entry ∈ walkEntries entries path := by
  induction entries with
  | nil => exact absurd member List.not_mem_nil
  | cons first rest induction =>
      rcases List.mem_cons.mp member with rfl | later
      · rw [walkEntries, List.mem_cons, List.mem_append]
        exact walked.imp_right .inl
      · exact List.mem_cons_of_mem _ (List.mem_append_right _ (induction later))

theorem exists_mem_walkMembers {members : List Payload} {inner child : Payload} {key : String}
    (member : inner ∈ members)
    (walked : ∀ path, ∃ front, (path ++ front ++ "." ++ key, child) ∈ walkMetadata inner path)
    (path : String) (index : Nat) :
    ∃ front, (path ++ front ++ "." ++ key, child) ∈ walkMembers members path index := by
  induction members generalizing index with
  | nil => exact absurd member List.not_mem_nil
  | cons first rest induction =>
      rcases List.mem_cons.mp member with rfl | later
      · obtain ⟨front, found⟩ := walked (path ++ "[" ++ toString index ++ "]")
        refine ⟨"[" ++ toString index ++ "]" ++ front, List.mem_append_left _ ?_⟩
        simpa only [String.append_assoc] using found
      · obtain ⟨front, found⟩ := induction later (index + 1)
        exact ⟨front, List.mem_append_right _ found⟩

theorem Payload.Stores.exists_mem_walk {value child : Payload} {key : String}
    (stores : value.Stores key child) (path : String) :
    ∃ front, (path ++ front ++ "." ++ key, child) ∈ walkMetadata value path := by
  induction stores generalizing path with
  | entry member => exact ⟨"", mem_walkEntries member path (.inl (by simp))⟩
  | @within entries outer key inner child member _ induction =>
      obtain ⟨front, found⟩ := induction (path ++ "." ++ outer)
      refine ⟨"." ++ outer ++ front, mem_walkEntries member path (.inr ?_)⟩
      simpa only [String.append_assoc] using found
  | among ordered member _ induction =>
      obtain ⟨front, found⟩ := exists_mem_walkMembers member induction path 0
      exact ⟨front, by simpa [walkMetadata, ordered] using found⟩

/-- What holds of the last segment of some path, with its value, holds of the last segment of some
key, with the value it leads to. -/
theorem exists_walk_iff {value : Payload} {path : String} (good : List Char → Payload → Prop) :
    (∃ entry ∈ walkMetadata value path, good (lastSegment entry.1.toList) entry.2) ↔
      ∃ key child, value.Stores key child ∧ good (lastSegment key.toList) child := by
  constructor
  · rintro ⟨entry, member, holds⟩
    obtain ⟨front, key, isPath, stores⟩ := stores_of_mem_walk value path entry member
    rw [isPath, toList_childPath, lastSegment_append_dot] at holds
    exact ⟨key, entry.2, stores, holds⟩
  · rintro ⟨key, child, stores, holds⟩
    obtain ⟨front, member⟩ := stores.exists_mem_walk path
    refine ⟨_, member, ?_⟩
    rwa [toList_childPath, lastSegment_append_dot]

end Walk

/-! ## Segments of keys -/

section Segments

variable {chars : List Char}

theorem lastSegment_suffix (chars : List Char) : lastSegment chars <:+ chars := by
  have front : chars.reverse.takeWhile (fun c => c ≠ '.') <+: chars.reverse :=
    List.takeWhile_prefix _
  have back := List.reverse_suffix.mpr front
  rwa [List.reverse_reverse] at back

theorem lastSegment_of_plain (plain : '.' ∉ chars) : lastSegment chars = chars := by
  have whole : chars.reverse.takeWhile (fun c => c ≠ '.') = chars.reverse := by
    refine List.takeWhile_eq_self_iff.mpr fun c member => decide_eq_true ?_
    rintro rfl
    exact plain (List.mem_reverse.mp member)
  rw [lastSegment, whole, List.reverse_reverse]

/-- A secret in the last segment of a key is a secret in the key. -/
theorem sensitive_of_lastSegment (sensitive : Sensitive (lastSegment chars)) : Sensitive chars := by
  obtain ⟨marker, isMarker, inside⟩ := sensitive
  obtain ⟨front, split⟩ := lastSegment_suffix chars
  refine ⟨marker, isMarker, inside.trans ?_⟩
  have lowered : lower chars = lower front ++ lower (lastSegment chars) := by
    rw [lower, lower, lower, ← List.flatMap_append, split]
  rw [lowered]
  exact (List.suffix_append _ _).isInfix

/-- A tenant key has no dots. -/
theorem NamesTenant.lastSegment_eq (names : NamesTenant chars) : lastSegment chars = chars := by
  refine lastSegment_of_plain fun dotted => ?_
  have lowered : '.' ∈ lower chars := List.mem_flatMap.mpr ⟨ '.', dotted, by decide⟩
  have plain : ∀ text ∈ ["tenant_id".toList, "context_tenant_id".toList], '.' ∉ text := by decide
  exact plain _ names lowered

end Segments

/-! ## The evaluation -/

/-- The arguments of an evaluation. -/
structure SecurityCall where
  identity : GatewayIdentity
  workloadRequest : WorkloadRequest
  sessionBinding : SessionRequestBinding
  tenantId : String
  sessionAuthorized : Bool

/-- The recognized privacy levels. -/
def allowedPrivacyLevels : List String := ["public", "internal", "confidential", "restricted"]

/-- The issue, unless the condition holds. -/
def issueUnless (condition : Prop) [Decidable condition] (issue : GatewaySecurityIssue) :
    List GatewaySecurityIssue :=
  if condition then [] else [issue]

/-- One issue for each path. -/
def pathIssues (code : GatewaySecurityCode) (message : String) (visible : Text.Nonblank message)
    (paths : List String) (given : ∀ path ∈ paths, Text.Nonblank path) :
    List GatewaySecurityIssue :=
  paths.pmap (fun path isGiven => ⟨code, path, message, .error,
    List.forall_mem_cons.mpr ⟨isGiven, List.forall_mem_singleton.mpr visible⟩⟩) given

theorem walk_nonblank (value : Payload) {path : String} (visible : Text.Nonblank path) :
    ∀ entry ∈ walkMetadata value path, Text.Nonblank entry.1 := by
  intro entry member
  obtain ⟨front, key, isPath, _⟩ := stores_of_mem_walk value path entry member
  rw [isPath, String.append_assoc, String.append_assoc]
  exact Text.nonblank_append_left visible _

namespace SecurityCall

variable (call : SecurityCall)

/-- The input of the request, as a value. -/
def input : Payload := .dict call.workloadRequest.input.entries

/-- The context of the request, as a value. -/
def context : Payload := .dict call.workloadRequest.context.entries

/-- The paths of input and context. -/
def metadataEntries : List (String × Payload) :=
  walkMetadata call.input "input" ++ walkMetadata call.context "context"

/-- The paths whose last segment names a secret. -/
def secretPaths : List String :=
  (call.metadataEntries.filter fun entry => Sensitive (lastSegment entry.1.toList)).map Prod.fst

/-- The paths of the context whose last segment is a tenant key, with a value that is not the
tenant. -/
def foreignPaths : List String :=
  ((walkMetadata call.context "context").filter fun entry =>
    decide (NamesTenant (lastSegment entry.1.toList)) &&
      !entry.2.same (.text call.tenantId)).map Prod.fst

theorem secretPaths_nonblank : ∀ path ∈ call.secretPaths, Text.Nonblank path := by
  refine List.forall_mem_map.mpr fun entry member => ?_
  rcases List.mem_append.mp (List.mem_of_mem_filter member) with inInput | inContext
  · exact walk_nonblank call.input (Text.nonblank_literal rfl) entry inInput
  · exact walk_nonblank call.context (Text.nonblank_literal rfl) entry inContext

theorem foreignPaths_nonblank : ∀ path ∈ call.foreignPaths, Text.Nonblank path :=
  List.forall_mem_map.mpr fun entry member =>
    walk_nonblank call.context (Text.nonblank_literal rfl) entry (List.mem_of_mem_filter member)

/-- The issues of a call. -/
def issues : List GatewaySecurityIssue :=
  issueUnless (call.identity.workloadId = call.workloadRequest.workloadId)
      ⟨.identityMismatch, "workload_id", "gateway and workload identities do not match", .error,
        by decide⟩ ++
    issueUnless (some call.identity.sessionId = call.workloadRequest.sessionId)
      ⟨.identityMismatch, "session_id", "gateway and workload session identities do not match",
        .error, by decide⟩ ++
    issueUnless (call.sessionBinding.requestId = call.identity.requestId ∧
        call.sessionBinding.workloadId = call.identity.workloadId ∧
        call.sessionBinding.sessionIdentity.sessionId = call.identity.sessionId)
      ⟨.identityMismatch, "session_binding", "session binding identity is inconsistent", .error,
        by decide⟩ ++
    issueUnless (call.sessionBinding.sessionIdentity.tenantId = call.tenantId)
      ⟨.tenantMismatch, "tenant_id", "session tenant does not match gateway tenant", .error,
        by decide⟩ ++
    issueUnless (call.sessionAuthorized = true)
      ⟨.unauthorizedSession, "session_binding", "session binding is not authorized", .error,
        by decide⟩ ++
    pathIssues .secretMetadata "secret, token, or credential metadata is forbidden"
      (Text.nonblank_literal rfl) call.secretPaths call.secretPaths_nonblank ++
    issueUnless (call.workloadRequest.privacyLevel ∈ allowedPrivacyLevels)
      ⟨.invalidPrivacy, "privacy_level", "privacy declaration is not recognized", .error,
        by decide⟩ ++
    pathIssues .crossTenantContext "context reference belongs to another tenant"
      (Text.nonblank_literal rfl) call.foreignPaths call.foreignPaths_nonblank

theorem severity_of_mem_issues : ∀ issue ∈ call.issues, issue.severity = .error := by
  have stated {condition : Prop} [Decidable condition] {given : GatewaySecurityIssue}
      (isError : given.severity = .error) :
      ∀ issue ∈ issueUnless condition given, issue.severity = .error := by
    intro issue member
    rw [issueUnless] at member
    split at member
    · exact absurd member List.not_mem_nil
    · exact List.mem_singleton.mp member ▸ isError
  have paths {code : GatewaySecurityCode} {message : String} {visible : Text.Nonblank message}
      {paths : List String} {given : ∀ path ∈ paths, Text.Nonblank path} :
      ∀ issue ∈ pathIssues code message visible paths given, issue.severity = .error := by
    intro issue member
    obtain ⟨path, inside, rfl⟩ := List.mem_pmap.mp member
    rfl
  simp only [issues, List.forall_mem_append]
  exact ⟨⟨⟨⟨⟨⟨⟨stated rfl, stated rfl⟩, stated rfl⟩, stated rfl⟩, stated rfl⟩, paths⟩, stated rfl⟩,
    paths⟩

end SecurityCall

/-- Evaluate the security of a request. -/
def evaluateGatewaySecurity (call : SecurityCall) : Except Fault GatewaySecurityResult :=
  if tenantVisible : Text.Nonblank call.tenantId then
    .ok {
      requestId := call.identity.requestId
      workloadId := call.identity.workloadId
      sessionId := call.identity.sessionId
      tenantId := call.tenantId
      allowed := call.issues.isEmpty
      issues := call.issues
      identity_nonblank := by
        have own := call.identity.texts_nonblank
        simp only [List.forall_mem_cons] at own ⊢
        exact ⟨own.1, own.2.1, own.2.2.1, tenantVisible, own.2.2.2⟩
      allowed_iff := by
        rw [List.isEmpty_iff]
        constructor
        · intro empty
          simp [empty]
        · intro clear
          refine List.eq_nil_iff_forall_not_mem.mpr fun issue member => ?_
          exact clear issue member (call.severity_of_mem_issues issue member) }
  else
    .error (.validation "GatewaySecurityResult" "tenant_id" "security identity must be non-empty")

/-! ## What is found -/

theorem same_text_iff {value : Payload} {text : String} :
    value.same (.text text) = true ↔ value = .text text := by
  cases value <;> simp [Payload.same, Payload.numeric]

namespace SecurityCall

/-- The checks that look at no path pass. -/
structure Checked (call : SecurityCall) : Prop where
  /-- The request is of the workload. -/
  workload : call.identity.workloadId = call.workloadRequest.workloadId
  /-- The request is of the session. -/
  session : some call.identity.sessionId = call.workloadRequest.sessionId
  /-- The binding is of the request, the workload and the session. -/
  bound : call.sessionBinding.requestId = call.identity.requestId ∧
    call.sessionBinding.workloadId = call.identity.workloadId ∧
    call.sessionBinding.sessionIdentity.sessionId = call.identity.sessionId
  /-- The session is of the tenant. -/
  tenant : call.sessionBinding.sessionIdentity.tenantId = call.tenantId
  /-- The session is authorized. -/
  authorized : call.sessionAuthorized = true
  /-- The privacy level is recognized. -/
  privacy : call.workloadRequest.privacyLevel ∈ allowedPrivacyLevels

/-- A dictionary of the input or the context has the key. -/
def HasKey (call : SecurityCall) (key : String) : Prop :=
  ∃ child, call.input.Stores key child ∨ call.context.Stores key child

/-- The context holds, under the key, a value that is not the tenant. -/
def Foreign (call : SecurityCall) (key : String) : Prop :=
  ∃ child, call.context.Stores key child ∧ child ≠ .text call.tenantId

variable {call : SecurityCall}

theorem issueUnless_eq_nil_iff {condition : Prop} [Decidable condition]
    {issue : GatewaySecurityIssue} : issueUnless condition issue = [] ↔ condition := by
  by_cases holds : condition <;> simp [issueUnless, holds]

theorem issues_eq_nil_iff :
    call.issues = [] ↔ call.Checked ∧ call.secretPaths = [] ∧ call.foreignPaths = [] := by
  simp only [issues, List.append_eq_nil_iff, issueUnless_eq_nil_iff, pathIssues,
    List.pmap_eq_nil_iff]
  constructor
  · rintro ⟨⟨⟨⟨⟨⟨⟨workload, session⟩, bound⟩, tenant⟩, authorized⟩, secrets⟩, privacy⟩, foreign⟩
    exact ⟨⟨workload, session, bound, tenant, authorized, privacy⟩, secrets, foreign⟩
  · rintro ⟨checked, secrets, foreign⟩
    exact ⟨⟨⟨⟨⟨⟨⟨checked.workload, checked.session⟩, checked.bound⟩, checked.tenant⟩,
      checked.authorized⟩, secrets⟩, checked.privacy⟩, foreign⟩

theorem secretPaths_ne_nil_iff : call.secretPaths ≠ [] ↔
    ∃ key, call.HasKey key ∧ Sensitive (lastSegment key.toList) := by
  have flagged : call.secretPaths ≠ [] ↔
      ∃ entry ∈ call.metadataEntries, Sensitive (lastSegment entry.1.toList) := by
    simp [secretPaths, List.filter_eq_nil_iff]
  have walked (value : Payload) (path : String) :=
    @exists_walk_iff value path fun segment _ => Sensitive segment
  rw [flagged, metadataEntries]
  simp only [List.mem_append, or_and_right, exists_or, walked]
  constructor
  · rintro (⟨key, child, stores, sensitive⟩ | ⟨key, child, stores, sensitive⟩)
    · exact ⟨key, ⟨child, .inl stores⟩, sensitive⟩
    · exact ⟨key, ⟨child, .inr stores⟩, sensitive⟩
  · rintro ⟨key, ⟨child, stores | stores⟩, sensitive⟩
    · exact .inl ⟨key, child, stores, sensitive⟩
    · exact .inr ⟨key, child, stores, sensitive⟩

theorem foreignPaths_ne_nil_iff : call.foreignPaths ≠ [] ↔
    ∃ key, NamesTenant (lastSegment key.toList) ∧ call.Foreign key := by
  have flagged : call.foreignPaths ≠ [] ↔ ∃ entry ∈ walkMetadata call.context "context",
      NamesTenant (lastSegment entry.1.toList) ∧ entry.2 ≠ .text call.tenantId := by
    simp [foreignPaths, List.filter_eq_nil_iff, ← same_text_iff]
  rw [flagged, exists_walk_iff fun segment child =>
    NamesTenant segment ∧ child ≠ .text call.tenantId]
  constructor
  · rintro ⟨key, child, stores, names, other⟩
    exact ⟨key, names, child, stores, other⟩
  · rintro ⟨key, names, child, stores, other⟩
    exact ⟨key, child, stores, names, other⟩

theorem exists_mem_issueUnless_iff {condition : Prop} [Decidable condition]
    {given : GatewaySecurityIssue} {code : GatewaySecurityCode} :
    (∃ issue ∈ issueUnless condition given, issue.code = code) ↔
      ¬ condition ∧ given.code = code := by
  by_cases holds : condition <;> simp [issueUnless, holds]

theorem exists_mem_pathIssues_iff {own code : GatewaySecurityCode} {message : String}
    {visible : Text.Nonblank message} {paths : List String}
    {given : ∀ path ∈ paths, Text.Nonblank path} :
    (∃ issue ∈ pathIssues own message visible paths given, issue.code = code) ↔
      own = code ∧ paths ≠ [] := by
  constructor
  · rintro ⟨issue, member, isCode⟩
    obtain ⟨path, inside, rfl⟩ := List.mem_pmap.mp member
    exact ⟨isCode, List.ne_nil_of_mem inside⟩
  · rintro ⟨isCode, some⟩
    obtain ⟨path, inside⟩ := List.exists_mem_of_ne_nil paths some
    exact ⟨_, List.mem_pmap.mpr ⟨path, inside, rfl⟩, isCode⟩

theorem exists_path_issue_iff :
    ((∃ issue ∈ call.issues, issue.code = .secretMetadata) ↔ call.secretPaths ≠ []) ∧
      ((∃ issue ∈ call.issues, issue.code = .crossTenantContext) ↔ call.foreignPaths ≠ []) := by
  simp only [issues, List.mem_append, or_and_right, exists_or, exists_mem_issueUnless_iff,
    exists_mem_pathIssues_iff]
  simp

/-- What holds of an evaluation when keys are inspected whole. -/
structure SecurityLaw (call : SecurityCall) (result : GatewaySecurityResult) : Prop where
  /-- No key of an allowed request names a secret. -/
  secrets_absent : result.allowed = true → ∀ key, call.HasKey key → ¬ Sensitive key.toList
  /-- Every value under a tenant key of an allowed request is the tenant. -/
  tenants_equal : result.allowed = true → ∀ key, NamesTenant key.toList → ¬ call.Foreign key
  /-- A secret is only reported where some key names one. -/
  secret_real : (∃ issue ∈ result.issues, issue.code = .secretMetadata) →
    ∃ key, call.HasKey key ∧ Sensitive key.toList
  /-- Another tenant is only reported where a value under a tenant key is not the tenant. -/
  tenant_real : (∃ issue ∈ result.issues, issue.code = .crossTenantContext) →
    ∃ key, NamesTenant key.toList ∧ call.Foreign key

/-- The last segments of keys tell what the keys tell. -/
structure SegmentsSuffice (call : SecurityCall) : Prop where
  /-- Where everything else passes, a key that names a secret does so in its last segment. -/
  secret : call.Checked → (∀ key, call.HasKey key → ¬ Sensitive (lastSegment key.toList)) →
    (∀ key, NamesTenant (lastSegment key.toList) → ¬ call.Foreign key) →
      ∀ key, call.HasKey key → ¬ Sensitive key.toList
  /-- A value under a key that ends like a tenant key is the tenant, or a tenant key has another
  value too. -/
  tenant : ∀ key, NamesTenant (lastSegment key.toList) → call.Foreign key →
    ∃ whole, NamesTenant whole.toList ∧ call.Foreign whole

theorem exists_evaluated (visible : Text.Nonblank call.tenantId) :
    ∃ result, evaluateGatewaySecurity call = .ok result ∧
      result.allowed = call.issues.isEmpty ∧ result.issues = call.issues := by
  rw [evaluateGatewaySecurity, dif_pos visible]
  exact ⟨_, rfl, rfl, rfl⟩

theorem eq_of_evaluated {result : GatewaySecurityResult}
    (evaluated : evaluateGatewaySecurity call = .ok result) :
    Text.Nonblank call.tenantId ∧
      (result.allowed = true ↔ call.issues = []) ∧ result.issues = call.issues := by
  unfold evaluateGatewaySecurity at evaluated
  split at evaluated
  · next visible =>
      obtain rfl := Except.ok.inj evaluated
      exact ⟨visible, List.isEmpty_iff, rfl⟩
  · contradiction

/-- Where an evaluation keeps the law, the last segments of keys tell what the keys tell. -/
theorem segmentsSuffice_of_law {call : SecurityCall} {result : GatewaySecurityResult}
    (evaluated : evaluateGatewaySecurity call = .ok result) (law : call.SecurityLaw result) :
    call.SegmentsSuffice := by
  obtain ⟨_, allowed, sameIssues⟩ := eq_of_evaluated evaluated
  constructor
  case secret =>
    intro checked segments tenants
    refine law.secrets_absent (allowed.mpr (issues_eq_nil_iff.mpr ⟨checked, ?_, ?_⟩))
    · by_contra found
      obtain ⟨key, has, sensitive⟩ := secretPaths_ne_nil_iff.mp found
      exact segments key has sensitive
    · by_contra found
      obtain ⟨key, names, foreign⟩ := foreignPaths_ne_nil_iff.mp found
      exact tenants key names foreign
  case tenant =>
    intro key names foreign
    refine law.tenant_real ?_
    rw [sameIssues]
    exact exists_path_issue_iff.2.mpr (foreignPaths_ne_nil_iff.mpr ⟨key, names, foreign⟩)

/-- Where the last segments of keys tell what the keys tell, an evaluation keeps the law. -/
theorem law_of_segmentsSuffice {call : SecurityCall} {result : GatewaySecurityResult}
    (evaluated : evaluateGatewaySecurity call = .ok result) (segments : call.SegmentsSuffice) :
    call.SecurityLaw result := by
  obtain ⟨_, allowed, sameIssues⟩ := eq_of_evaluated evaluated
  have clear (isAllowed : result.allowed = true) := issues_eq_nil_iff.mp (allowed.mp isAllowed)
  have noForeign (isAllowed : result.allowed = true) (key : String)
      (names : NamesTenant (lastSegment key.toList)) : ¬ call.Foreign key := fun foreign =>
    foreignPaths_ne_nil_iff.mpr ⟨key, names, foreign⟩ (clear isAllowed).2.2
  constructor
  case secrets_absent =>
    intro isAllowed
    refine segments.secret (clear isAllowed).1 ?_ (noForeign isAllowed)
    intro key has sensitive
    exact secretPaths_ne_nil_iff.mpr ⟨key, has, sensitive⟩ (clear isAllowed).2.1
  case tenants_equal =>
    intro isAllowed key names
    exact noForeign isAllowed key (names.lastSegment_eq.symm ▸ names)
  case secret_real =>
    rw [sameIssues]
    intro reported
    obtain ⟨key, has, sensitive⟩ :=
      secretPaths_ne_nil_iff.mp (exists_path_issue_iff.1.mp reported)
    exact ⟨key, has, sensitive_of_lastSegment sensitive⟩
  case tenant_real =>
    rw [sameIssues]
    intro reported
    obtain ⟨key, names, foreign⟩ :=
      foreignPaths_ne_nil_iff.mp (exists_path_issue_iff.2.mp reported)
    exact segments.tenant key names foreign

/-- Every evaluation keeps the law exactly where the last segments of keys tell what the keys
tell. -/
theorem security_iff (call : SecurityCall) :
    (∀ result, evaluateGatewaySecurity call = .ok result → call.SecurityLaw result) ↔
      (Text.Nonblank call.tenantId → call.SegmentsSuffice) := by
  constructor
  · intro law visible
    obtain ⟨result, evaluated, _⟩ := call.exists_evaluated visible
    exact segmentsSuffice_of_law evaluated (law result evaluated)
  · intro enough result evaluated
    obtain ⟨visible, _⟩ := eq_of_evaluated evaluated
    exact law_of_segmentsSuffice evaluated (enough visible)

end SecurityCall

/-! ## A key with a dot -/

/-- A request whose context holds a value under a key. -/
def keyedRequest (key : String) : WorkloadRequest :=
  { modestRequest with context := Dict.empty.insert key (.text "value") }

/-- The evaluation of such a request in its own session. -/
def keyedCall (key : String) : SecurityCall where
  identity := modestIdentity
  workloadRequest := keyedRequest key
  sessionBinding := firstCall.binding firstCall_valid
  tenantId := firstCall.sessionIdentity.tenantId
  sessionAuthorized := true

theorem keyedCall_hasKey (key : String) : (keyedCall key).HasKey key :=
  ⟨.text "value", .inr (.entry List.mem_cons_self)⟩

/-- A dot hides the part of a key before it: the request is allowed, although its key names a
secret. -/
theorem dot_hides_secret :
    ¬ ∀ (call : SecurityCall) (result : GatewaySecurityResult),
      evaluateGatewaySecurity call = .ok result → call.SecurityLaw result := by
  intro law
  obtain ⟨result, evaluated, allowed, _⟩ :=
    (keyedCall "token.value").exists_evaluated (show Text.Nonblank "tenant" by decide)
  have passes : (keyedCall "token.value").issues.isEmpty = true := by decide
  exact (law _ result evaluated).secrets_absent (allowed.trans passes) "token.value"
    (keyedCall_hasKey "token.value") (by decide)

end Gateway
end MercuryX
