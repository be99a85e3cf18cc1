import PvcMigrate.Lib.Check
import PvcMigrate.Lib.SlashPath
import PvcMigrate.Workflow.Status

/-!
# Where a recovery point lives

The configuration of an S3 recovery point (`objectstore/s3.go`) names a bucket, a prefix of several
path segments and a name.  `ValidateConfig` decides which ones may be used, `S3RepositoryLocation`
(`backup/repository_binding.go`) takes one from a `BackupRepository`.  The objects of the recovery
point are found by their keys: the data below `prefix/name/`, next to it the lock and the completion
manifest.

`url.Parse` is a parameter; the other checks are spelled out.  The texts that `ValidateConfig` looks
at for unsafe whitespace are in a Go map, so which of several bad ones the error names is up to the
runtime; here it is the first one of the source.
-/

namespace PvcMigrate

namespace ObjectStore

open SlashPath Check

/-- What `ValidateConfig` looks at in a parsed endpoint (`url.URL`). -/
structure URL where
  scheme : Text
  user : Bool := false
  host : Text
  path : Text := []
  rawQuery : Text := []
  fragment : Text := []

/-- `objectstore.Config`, without the flags that only reach the client and rclone. -/
structure Config where
  bucket : Text
  prefixPath : Text := []
  name : Text
  provider : Text := []
  endpoint : Text := []
  region : Text := []
  accessKey : Text := []
  secretKey : Text := []
  sessionToken : Text := []
  allowInsecureEndpoint : Bool := false
  serverSideEncryption : Text := []
  sseKMSKeyID : Text := []
  deriving DecidableEq

def maxBucketLength : Nat := 63
def maxObjectNameLength : Nat := 253
def maxObjectPrefixLength : Nat := 1024
def maxObjectKeyLength : Nat := 1024

/-- `[A-Za-z0-9]`. -/
def alphanumeric (c : Char) : Bool :=
  ('A' ≤ c && c ≤ 'Z') || ('a' ≤ c && c ≤ 'z') || ('0' ≤ c && c ≤ '9')

/-- `safeSegment`: `^[A-Za-z0-9][A-Za-z0-9._-]*$`. -/
def safeSegment : Text → Bool
  | [] => false
  | c :: rest => alphanumeric c && rest.all fun c => alphanumeric c || c ∈ ['.', '_', '-']

/-! ## Keys -/

/-- The text in front of the keys of the data objects (`Inventory`). -/
def dataPrefix (config : Config) : Text := join [config.prefixPath, config.name] ++ ['/']

/-- The key of a control object: one next to the data. -/
def controlKey (suffix : Text) (config : Config) : Text :=
  join [config.prefixPath, config.name ++ suffix]

def manifestSuffix : Text := ".complete.json".toList

def lockSuffix : Text := ".lock.json".toList

/-- `(*Store).manifestKey`. -/
def manifestKey (config : Config) : Text := controlKey manifestSuffix config

/-- `(*Store).lockKey`. -/
def lockKey (config : Config) : Text := controlKey lockSuffix config

/-! ## Validation -/

def invalidConfig (message : String) : Error := ⟨.validation, "S3 configuration", message⟩

def validatePrefix (prefixPath : Text) : Except Error Unit := do
  refuse (prefixPath.byteLength > maxObjectPrefixLength)
    (invalidConfig "prefix exceeds the maximum length of 1024 characters")
  onlyIf (prefixPath ≠ []) <|
    (split prefixPath).forM fun segment =>
      refuse (safeSegment segment = false)
        (invalidConfig "prefix must contain slash-separated safe path segments")

/-- `strings.ContainsAny(value, "\r\n\x00") || strings.TrimSpace(value) != value`. -/
def unsafeWhitespace (value : Text) : Bool :=
  value.any (fun c => c ∈ ['\r', '\n', '\x00']) || value.trimSpace != value

/-- The texts that are looked at for unsafe whitespace, with their names. -/
def whitespaceChecked (config : Config) : List (String × Text) :=
  [("provider", config.provider), ("endpoint", config.endpoint), ("region", config.region),
    ("access key", config.accessKey), ("secret key", config.secretKey),
    ("session token", config.sessionToken), ("SSE KMS key ID", config.sseKMSKeyID)]

def validateEndpoint (parseURL : Text → Option URL) (config : Config) : Except Error Unit :=
  match parseURL config.endpoint with
  | none => .error (invalidConfig "endpoint must be an absolute HTTP or HTTPS URL")
  | some parsed => do
    refuse (parsed.host = [] ∨ (parsed.scheme ≠ "https".toList ∧ parsed.scheme ≠ "http".toList))
      (invalidConfig "endpoint must be an absolute HTTP or HTTPS URL")
    refuse (parsed.user = true ∨ parsed.rawQuery ≠ [] ∨ parsed.fragment ≠ [] ∨
        (parsed.path ≠ [] ∧ parsed.path ≠ ['/']))
      (invalidConfig
        "endpoint must not contain credentials, query parameters, fragments, or a path")
    refuse (parsed.scheme = "http".toList ∧ config.allowInsecureEndpoint = false)
      ⟨.precondition, "S3 configuration", "HTTP endpoint requires --allow-insecure-endpoint"⟩

def validateEncryption (config : Config) : Except Error Unit := do
  refuse (config.sseKMSKeyID ≠ [] ∧ config.serverSideEncryption ≠ "aws:kms".toList)
    ⟨.validation, "S3 encryption", "SSE KMS key ID requires --s3-server-side-encryption=aws:kms"⟩
  refuse (config.serverSideEncryption ∉ ["".toList, "AES256".toList, "aws:kms".toList])
    ⟨.validation, "S3 encryption", "server-side encryption must be AES256 or aws:kms"⟩

def validateConfig (parseURL : Text → Option URL) (config : Config) : Except Error Unit := do
  refuse (config.bucket.byteLength > maxBucketLength)
    (invalidConfig "bucket exceeds the maximum length of 63 characters")
  refuse (safeSegment config.bucket = false)
    (invalidConfig
      "bucket must contain only alphanumeric characters, dots, underscores, and hyphens")
  refuse (config.name.byteLength > maxObjectNameLength)
    (invalidConfig "name exceeds the maximum length of 253 characters")
  refuse (safeSegment config.name = false)
    (invalidConfig
      "name must contain only alphanumeric characters, dots, underscores, and hyphens")
  validatePrefix config.prefixPath
  refuse ((manifestKey config).byteLength > maxObjectKeyLength)
    (invalidConfig "prefix and recovery-point name exceed S3's 1024-byte object-key limit")
  refuse (config.accessKey.isEmpty ≠ config.secretKey.isEmpty)
    ⟨.validation, "S3 credentials", "access key and secret key must be supplied together"⟩
  (whitespaceChecked config).forM fun (name, value) =>
    refuse (unsafeWhitespace value = true) (invalidConfig (name ++ " contains unsafe whitespace"))
  onlyIf (config.endpoint ≠ []) (validateEndpoint parseURL config)
  validateEncryption config

/-! ## What the checks say about the keys -/

theorem slash_not_mem_of_safe {seg : Text} (h : safeSegment seg = true) : '/' ∉ seg := by
  cases seg with
  | nil => simp
  | cons c rest =>
    simp only [safeSegment, Bool.and_eq_true, List.all_eq_true] at h
    intro hmem
    rcases List.mem_cons.mp hmem with rfl | hmem
    · exact absurd h.1 (by decide)
    · exact absurd (h.2 _ hmem) (by decide)

/-- A safe segment starts with a letter or a digit, so it is not one that `path.Clean` drops. -/
theorem proper_of_safe {seg : Text} (h : safeSegment seg = true) (suffix : Text) :
    Proper (seg ++ suffix) := by
  cases seg with
  | nil => simp [safeSegment] at h
  | cons c rest =>
    have hc : alphanumeric c = true := by
      simp only [safeSegment, Bool.and_eq_true] at h
      exact h.1
    have hdot : c ≠ '.' := by
      rintro rfl
      exact absurd hc (by decide)
    simp [Proper, hdot]

/-- What the keys rest on: the name is safe and so is every segment of the prefix. -/
structure Safe (config : Config) : Prop where
  name : safeSegment config.name = true
  dir : ∀ seg ∈ dirSegments config.prefixPath, safeSegment seg = true

variable {parseURL : Text → Option URL}

theorem safe_of_validateConfig {config : Config}
    (h : validateConfig parseURL config = .ok ()) : Safe config := by
  simp only [validateConfig, validatePrefix, andThen_eq_ok, refuse_eq_ok, onlyIf_eq_ok,
    forM_eq_ok] at h
  obtain ⟨-, -, -, hname, ⟨-, hfront⟩, -⟩ := h
  refine ⟨by simpa using hname, fun seg hseg => ?_⟩
  unfold dirSegments at hseg
  split at hseg
  · simp at hseg
  · next hne => simpa using hfront hne seg hseg

/-- The segments of `prefix/name`. -/
def Config.path (config : Config) : List Text := dirSegments config.prefixPath ++ [config.name]

variable {config : Config}

/-- The segments of a control object's key: it is a sibling of the data. -/
theorem split_controlKey (safe : Safe config) {suffix : Text} (hsuffix : '/' ∉ suffix) :
    split (controlKey suffix config) =
      dirSegments config.prefixPath ++ [config.name ++ suffix] := by
  apply split_join_pair
  · intro seg hseg
    simpa using proper_of_safe (safe.dir seg hseg) []
  · exact proper_of_safe safe.name suffix
  · simp [slash_not_mem_of_safe safe.name, hsuffix]

theorem split_lockKey (safe : Safe config) :
    split (lockKey config) = dirSegments config.prefixPath ++ [config.name ++ lockSuffix] :=
  split_controlKey safe (by decide)

theorem split_manifestKey (safe : Safe config) :
    split (manifestKey config) = dirSegments config.prefixPath ++ [config.name ++ manifestSuffix] :=
  split_controlKey safe (by decide)

theorem split_join_path (safe : Safe config) :
    split (join [config.prefixPath, config.name]) = config.path := by
  have hcontrol := @split_controlKey config safe [] (by simp)
  simpa [controlKey, Config.path] using hcontrol

theorem split_dataPrefix_append (safe : Safe config) (rest : Text) :
    split (dataPrefix config ++ rest) = config.path ++ split rest := by
  rw [dataPrefix, List.append_assoc, ← split_join_path safe]
  exact split_append_slash _ rest

/-- A key is below the data prefix iff `prefix/name` is in front of it. -/
theorem prefix_dataPrefix_iff (safe : Safe config) {key : Text} :
    dataPrefix config <+: key ↔ ∃ rest, rest ≠ [] ∧ split key = config.path ++ rest := by
  rw [dataPrefix, append_slash_prefix_iff, split_join_path safe]

theorem path_injective {config' : Config} (h : config.path = config'.path) :
    config.prefixPath = config'.prefixPath ∧ config.name = config'.name := by
  obtain ⟨hdir, hname⟩ := List.append_inj' h rfl
  exact ⟨dirSegments_injective hdir, by simpa using hname⟩

/-! ## Repositories -/

/-- `v1alpha1.BackupRepositoryType`. -/
inductive BackupRepositoryType
  | s3
  | other (name : Text)
  deriving DecidableEq

/-- `v1alpha1.S3BackupRepositorySpec`, without the credentials' Secret and the client's flags. -/
structure S3BackupRepositorySpec where
  bucket : Text
  prefixPath : Text := []
  provider : Text := []
  endpoint : Text := []
  region : Text := []
  allowInsecureEndpoint : Bool := false
  serverSideEncryption : Text := []
  sseKMSKeyID : Text := []

/-- `v1alpha1.BackupRepository`, as far as its location goes. -/
structure BackupRepository where
  deletionTimestamp : Option Int := none
  type : BackupRepositoryType
  s3 : Option S3BackupRepositorySpec

/-- `domain.WrapError` around a validation error of the location. -/
def locationError (message : String) : Error := ⟨.validation, "backup repository", message⟩

/-- The check `ValidateConfig` with its error wrapped. -/
def validateLocation (parseURL : Text → Option URL) (message : String) (config : Config) :
    Except Error Unit :=
  (validateConfig parseURL config).mapError fun _ => locationError message

/-- `S3RepositoryLocation`; the repository may be missing. -/
def s3RepositoryLocation (parseURL : Text → Option URL) (repository : Option BackupRepository)
    (name : Text) : Except Error Config :=
  match repository with
  | none => .error (locationError "BackupRepository is required")
  | some repository => do
    refuse (repository.deletionTimestamp ≠ none)
      ⟨.precondition, "backup repository", "BackupRepository is being deleted"⟩
    match repository.type, repository.s3 with
    | .s3, some spec => do
      let config : Config :=
        { bucket := spec.bucket
          prefixPath := spec.prefixPath
          name
          provider := spec.provider
          endpoint := spec.endpoint
          region := spec.region
          allowInsecureEndpoint := spec.allowInsecureEndpoint
          serverSideEncryption := spec.serverSideEncryption
          sseKMSKeyID := spec.sseKMSKeyID }
      validateLocation parseURL "validate BackupRepository location" config
      let config := { config with prefixPath := (clean ('/' :: spec.prefixPath)).drop 1 }
      validateLocation parseURL "validate scoped BackupRepository location" config
      return config
    | _, _ => .error (locationError
      "BackupRepository requires type s3 with only an s3 configuration")

@[simp] theorem validateLocation_eq_ok {message : String} :
    validateLocation parseURL message config = .ok () ↔
      validateConfig parseURL config = .ok () := by
  unfold validateLocation
  cases h : validateConfig parseURL config <;> simp [Except.mapError]

theorem Safe.clean_root (safe : Safe config) :
    (clean ('/' :: config.prefixPath)).drop 1 = config.prefixPath := by
  by_cases h : config.prefixPath = []
  · rw [h]
    decide
  · have hproper : ∀ seg ∈ split config.prefixPath, Proper seg := by
      intro seg hseg
      have hdir : seg ∈ dirSegments config.prefixPath := by simpa [dirSegments, h] using hseg
      simpa using proper_of_safe (safe.dir seg hdir) []
    rw [clean_root_of_proper hproper]
    rfl

/-- A repository's recovery points lie under its own bucket and prefix, and their configuration
has passed `ValidateConfig`. -/
theorem s3RepositoryLocation_ok {repository : BackupRepository} {name : Text}
    (h : s3RepositoryLocation parseURL (some repository) name = .ok config) :
    validateConfig parseURL config = .ok () ∧ config.name = name ∧
      ∃ spec, repository.s3 = some spec ∧ config.bucket = spec.bucket ∧
        config.prefixPath = spec.prefixPath := by
  simp only [s3RepositoryLocation, andThen_eq_ok] at h
  obtain ⟨-, h⟩ := h
  split at h
  · next spec _ hspec =>
    simp only [andThen_eq_ok, validateLocation_eq_ok] at h
    obtain ⟨hfirst, hsecond, hreturn⟩ := h
    cases hreturn
    exact ⟨hsecond, rfl, spec, hspec, rfl, (safe_of_validateConfig hfirst).clean_root⟩
  · cases h

theorem s3RepositoryLocation_ok_team : ∃ config,
    s3RepositoryLocation (fun _ => none)
        (some ⟨none, .s3, some { bucket := ['b'], prefixPath := "team/a".toList }⟩)
          ['n'] = .ok config ∧
      validateConfig (fun _ => none) config = .ok () ∧ config.prefixPath = "team/a".toList := by
  have h : s3RepositoryLocation (fun _ => none)
      (some ⟨none, .s3, some { bucket := ['b'], prefixPath := "team/a".toList }⟩) ['n'] =
    .ok { bucket := ['b'], prefixPath := "team/a".toList, name := ['n'] } := by rfl
  obtain ⟨hvalid, -, spec, hspec, -, hprefix⟩ := s3RepositoryLocation_ok h
  cases hspec
  exact ⟨_, h, hvalid, hprefix⟩

end ObjectStore

end PvcMigrate
