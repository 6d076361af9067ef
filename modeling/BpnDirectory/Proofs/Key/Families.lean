import BpnDirectory.Access.Verifier
import BpnDirectory.Proofs.Access.Glance
import BpnDirectory.Proofs.Collection.OrderedMap

namespace BpnDirectory

/-!
Keys and the families of their algorithms.

An entry of the key file names an algorithm and gives a secret, an envelope or both.  The key
that is made of it fits its algorithm, with one exception: an algorithm with shared secrets
and an envelope alone make a key of the RSA family, which then verifies no token at all.
-/

open Json (Value Reading Document)

/-! ## Envelopes -/

namespace KeyMaterial

theorem ofPem_eq_ok_iff {family : KeyFamily} {text : String} {material : KeyMaterial} :
    ofPem family text = .ok material ↔
      family = material.family ∧ ∃ envelope, openPem? text = some envelope ∧
        envelope.1.fits envelope.2.2 family = true ∧
        if envelope.1 = .rsa then envelope.2.1.octets = material.octets
        else Der.searchItems octetsOf? envelope.2.2 = some material.octets := by
  rcases material with ⟨kind, octets⟩
  unfold ofPem
  cases openPem? text with
  | none => simp
  | some found =>
      rcases found with ⟨label, pem, items⟩
      by_cases fits : label.fits items family = true
      · cases label <;> cases searched : Der.searchItems octetsOf? items <;>
          simp [fits, searched]
      · simp [fits]

end KeyMaterial

/-! ## Entries -/

namespace KeyEntry

/-- Whether material is what an entry gives for its algorithm: the secret if secrets are
shared, and otherwise the key of the family of the algorithm that the envelope holds. -/
def Yields (entry : KeyEntry) (material : KeyMaterial) : Prop :=
  match entry.algorithm.family with
  | .shared => ∃ secret, entry.secret = some secret ∧ .secret (Text.Utf8.octets secret) = material
  | family => ∃ pem, entry.pem = some pem ∧ KeyMaterial.ofPem family pem = .ok material

/-- Whether an entry names an algorithm with shared secrets and gives no secret. -/
def LacksSecret (entry : KeyEntry) : Prop :=
  entry.algorithm.family = .shared ∧ entry.secret = none

/-- Whether material is the RSA key of the envelope of an entry that lacks a secret. -/
def Misreads (entry : KeyEntry) (material : KeyMaterial) : Prop :=
  entry.LacksSecret ∧ ∃ pem, entry.pem = some pem ∧ KeyMaterial.ofPem .rsa pem = .ok material

theorem publicKey_eq_ok_iff {did pem : String} {algorithm : Algorithm} {family : KeyFamily}
    {key : Key} :
    publicKey did algorithm family pem = .ok key ↔
      algorithm = key.algorithm ∧ KeyMaterial.ofPem family pem = .ok key.material := by
  rcases key with ⟨named, material⟩
  unfold publicKey
  cases KeyMaterial.ofPem family pem <;> simp

/-- A key that can be made of an entry is what the entry gives for its algorithm, or the RSA
key of an entry that lacks a secret. -/
theorem toKey_eq_ok_iff {did : String} {entry : KeyEntry} {key : Key} :
    toKey did entry = .ok key ↔
      entry.algorithm = key.algorithm ∧ (entry.Yields key.material ∨ entry.Misreads key.material) := by
  rcases entry with ⟨algorithm, pem, secret⟩
  rcases key with ⟨named, material⟩
  unfold toKey Yields Misreads LacksSecret
  dsimp only
  cases algorithm.family <;> cases pem <;> cases secret <;>
    simp [publicKey_eq_ok_iff]

theorem family_of_yields {entry : KeyEntry} {material : KeyMaterial}
    (yields : entry.Yields material) : material.family = entry.algorithm.family := by
  unfold Yields at yields
  split at yields
  · next shared =>
      rcases yields with ⟨secret, _, rfl⟩
      exact shared.symm
  · rcases yields with ⟨pem, _, taken⟩
    exact (KeyMaterial.ofPem_eq_ok_iff.mp taken).1.symm

theorem not_lacksSecret_of_yields {entry : KeyEntry} {material : KeyMaterial}
    (yields : entry.Yields material) : ¬ entry.LacksSecret := by
  rintro ⟨shared, none⟩
  unfold Yields at yields
  rw [shared] at yields
  rcases yields with ⟨secret, given, _⟩
  cases none.symm.trans given

theorem family_of_misreads {entry : KeyEntry} {material : KeyMaterial}
    (misreads : entry.Misreads material) : material.family ≠ entry.algorithm.family := by
  rcases misreads with ⟨⟨shared, _⟩, pem, _, taken⟩
  rw [shared, ← (KeyMaterial.ofPem_eq_ok_iff.mp taken).1]
  decide

end KeyEntry

/-! ## Files -/

namespace KeyRing

theorem find?_of_foldlM {entries : List (String × KeyEntry)} {start ring : KeyRing}
    (nodup : (entries.map Prod.fst).Nodup)
    (loaded : entries.foldlM (fun ring entry =>
      return ring.insert entry.1 (← KeyEntry.toKey entry.1 entry.2)) start = .ok ring) :
    (∀ entry ∈ entries, ∃ key, KeyEntry.toKey entry.1 entry.2 = .ok key ∧
        ring.find? entry.1 = some key) ∧
      ∀ did, (∀ entry ∈ entries, entry.1 ≠ did) → ring.find? did = start.find? did := by
  induction entries generalizing start with
  | nil =>
      cases loaded
      exact ⟨by simp, fun _ _ => rfl⟩
  | cons entry rest ih =>
      rw [List.foldlM_cons] at loaded
      rcases bind_eq_ok.mp loaded with ⟨next, taken, later⟩
      rcases bind_eq_ok.mp taken with ⟨key, made, taken⟩
      cases taken
      rw [List.map_cons, List.nodup_cons] at nodup
      rcases ih nodup.2 later with ⟨each, others⟩
      have apart : ∀ another ∈ rest, another.1 ≠ entry.1 := fun another member same =>
        nodup.1 (same ▸ List.mem_map_of_mem member)
      constructor
      · intro another member
        rcases List.mem_cons.mp member with rfl | listed
        · refine ⟨key, made, ?_⟩
          rw [others _ apart, OrderedMap.find?_insert, if_pos rfl]
        · exact each another listed
      · intro did absent
        rw [others did fun another member => absent another (List.mem_cons_of_mem entry member),
          OrderedMap.find?_insert, if_neg (absent entry List.mem_cons_self)]

/-- The entries of the text of a file, of which the last one for a DID counts. -/
def entriesOf? (text : String) : Option (OrderedMap KeyEntry) :=
  ((Document.ofText text).read (Value.members KeyEntry.read)).toOption.map .ofList

/-- The keys of a file are those of its entries. -/
theorem find?_of_ofText {text : String} {ring : KeyRing} (loaded : ofText text = .ok ring) :
    ∃ entries, entriesOf? text = some entries ∧ ∀ did,
      match entries.find? did with
      | some entry => ∃ key, KeyEntry.toKey did entry = .ok key ∧ ring.find? did = some key
      | none => ring.find? did = none := by
  unfold ofText at loaded
  split at loaded
  · next listed found =>
      refine ⟨.ofList listed, by rw [entriesOf?, found]; rfl, fun did => ?_⟩
      rcases find?_of_foldlM (OrderedMap.nodup_keys _) loaded with ⟨each, others⟩
      split
      · next entry given => exact each (did, entry) (OrderedMap.find?_eq_some_iff.mp given)
      · next absent =>
          rw [others did (OrderedMap.find?_eq_none_iff.mp absent), OrderedMap.find?_empty]
  · cases loaded

end KeyRing

/-! ## Tokens -/

namespace Token

variable {α : Type} {scheme : PublicKeyCheck} {token : Token} {read : Value → Reading α}

theorem checkSignature_eq_wrongFamily_iff {key : Key} :
    checkSignature scheme key token = .error .wrongFamily ↔
      key.material.family ≠ key.algorithm.family := by
  unfold checkSignature
  by_cases fits : key.material.family = key.algorithm.family
  · rw [if_neg (Decidable.not_not.mpr fits)]
    refine iff_of_false ?_ (Decidable.not_not.mpr fits)
    dsimp only
    split
    · split <;> simp
    · split
      · simp
      · split <;> simp
  · rw [if_pos fits]
    exact iff_of_true rfl fits

theorem document_ne_wrongFamily (part : List Char) : document part ≠ .error .wrongFamily := by
  unfold document
  split <;> simp

theorem Claims.check_ne_wrongFamily (claims : Claims) (now : Int) (issuer : String)
    (audience : Option String) : claims.check now issuer audience ≠ .error .wrongFamily := by
  unfold check
  split
  · simp
  · split
    · simp
    · split
      · simp
      · split <;> simp

theorem mapError_badJson_ne_wrongFamily (reading : Reading α) :
    (reading.mapError fun _ => Defect.badJson) ≠ .error .wrongFamily := by
  cases reading <;> simp [Except.mapError]

/-- A token is refused for the family of the key only if the key does not fit its algorithm. -/
theorem accept_eq_wrongFamily_iff {expected : Expectation} :
    accept scheme expected read token = .error .wrongFamily ↔
      expected.key.material.family ≠ expected.key.algorithm.family := by
  rw [← @checkSignature_eq_wrongFamily_iff scheme token]
  constructor
  · intro refused
    rcases bind_eq_error.mp refused with unsigned | ⟨_, _, refused⟩
    · exact unsigned
    · rcases bind_eq_error.mp refused with undecoded | ⟨_, _, refused⟩
      · exact absurd undecoded (document_ne_wrongFamily _)
      · rcases bind_eq_error.mp refused with unread | ⟨_, _, refused⟩
        · exact absurd unread (mapError_badJson_ne_wrongFamily _)
        · rcases bind_eq_error.mp refused with unread | ⟨claims, _, refused⟩
          · exact absurd unread (mapError_badJson_ne_wrongFamily _)
          · rcases bind_eq_error.mp refused with expired | ⟨_, _, refused⟩
            · exact absurd expired (claims.check_ne_wrongFamily _ _ _)
            · cases refused
  · intro unsigned
    rw [accept, unsigned]
    rfl

theorem Defect.message_inj {defect other : Defect} : defect.message = other.message ↔ defect = other := by
  cases defect <;> cases other <;> decide

end Token

namespace Access

/-- The refusal of a token whose signer has a key of another family. -/
def wrongFamily (signer : String) : Failure :=
  .unauthorized s!"Token of {signer} rejected: {Token.Defect.wrongFamily.message}"

theorem Verifier.verifySigned_eq_wrongFamily_iff {α : Type} {verifier : Verifier}
    {now : Time.Instant} {read : Value → Reading α} {text signer : String}
    {audience : Option String} {token : Token} {key : Key} (parts : Token.ofText text = .ok token)
    (named : token.algorithm = .ok key.algorithm) (known : verifier.keys.find? signer = some key) :
    verifier.verifySigned now read text signer audience = .error (wrongFamily signer) ↔
      key.material.family ≠ key.algorithm.family := by
  have reached : verifier.verifySigned now read text signer audience =
      (token.accept verifier.scheme ⟨key, now.unixSeconds, signer, audience⟩ read).mapError
        fun defect => .unauthorized s!"Token of {signer} rejected: {defect.message}" := by
    simp only [verifySigned, parts, named, Except.mapError, ok_bind, resolve_eq_ok_iff.mpr known,
      ne_eq, not_true_eq_false, if_false]
  have refused := @Token.accept_eq_wrongFamily_iff α verifier.scheme token read
    ⟨key, now.unixSeconds, signer, audience⟩
  rw [reached, ← refused]
  cases token.accept verifier.scheme ⟨key, now.unixSeconds, signer, audience⟩ read with
  | ok data => simp [Except.mapError]
  | error defect =>
      simp only [Except.mapError, wrongFamily, Except.error.injEq, Failure.unauthorized.injEq,
        String.append_right_inj]
      exact Token.Defect.message_inj

end Access

/-! ## Keys of files -/

namespace KeyRing

/-- Every entry of a key file that is taken makes a key for its algorithm, and no other key is
there.  The key is what the entry gives for its algorithm, and then no token of the algorithm is
refused for the family of the key, unless the entry names an algorithm with shared secrets and
gives none; then every such token is. -/
theorem yields_iff_of_ofText {text : String} {ring : KeyRing} (loaded : ofText text = .ok ring) :
    ∃ entries, entriesOf? text = some entries ∧
      (∀ did, (ring.find? did).isSome = (entries.find? did).isSome) ∧
      ∀ did key, ring.find? did = some key → ∃ entry, entries.find? did = some entry ∧
        entry.algorithm = key.algorithm ∧
        (entry.Yields key.material ↔ ¬ entry.LacksSecret) ∧
        ∀ (verifier : Access.Verifier) (α : Type) (read : Value → Reading α) (now : Time.Instant)
          (written : String) (audience : Option String) (token : Token),
          verifier.keys.find? did = some key → Token.ofText written = .ok token →
            token.algorithm = .ok key.algorithm →
              (verifier.verifySigned now read written did audience =
                  .error (Access.wrongFamily did) ↔ entry.LacksSecret) := by
  rcases find?_of_ofText loaded with ⟨entries, given, each⟩
  refine ⟨entries, given, fun did => ?_, fun did key found => ?_⟩
  · have one := each did
    split at one
    · next entry listed =>
        rcases one with ⟨key, _, found⟩
        rw [found, listed]
        rfl
    · next absent =>
        rw [one, absent]
        rfl
  · have one := each did
    split at one
    · next entry listed =>
        rcases one with ⟨made, taken, same⟩
        cases found.symm.trans same
        rcases KeyEntry.toKey_eq_ok_iff.mp taken with ⟨algorithm, origin⟩
        have fits : key.material.family ≠ key.algorithm.family ↔ entry.LacksSecret := by
          rw [← algorithm]
          rcases origin with yields | misreads
          · exact iff_of_false (fun other => other (KeyEntry.family_of_yields yields))
              (KeyEntry.not_lacksSecret_of_yields yields)
          · exact iff_of_true (KeyEntry.family_of_misreads misreads) misreads.1
        refine ⟨entry, listed, algorithm, ?_, ?_⟩
        · rcases origin with yields | misreads
          · exact iff_of_true yields (KeyEntry.not_lacksSecret_of_yields yields)
          · refine iff_of_false (fun yields => ?_) (fun holds => holds misreads.1)
            exact KeyEntry.not_lacksSecret_of_yields yields misreads.1
        · intro verifier α read now written audience token known parts named
          rw [Access.Verifier.verifySigned_eq_wrongFamily_iff parts named known, fits]
    · rw [one] at found
      cases found

/-- A key file with two entries for HS256: a secret, and an envelope with a public RSA key. -/
def mixedFile : String :=
  "\x7b\"did:web:holder\":\x7b\"alg\":\"HS256\",\"secret\":\"holder\"\x7d," ++
    "\"did:web:issuer\":\x7b\"alg\":\"HS256\",\"pem\":" ++
    "\"-----BEGIN RSA PUBLIC KEY-----\\nMAcCAgyhAgER\\n-----END RSA PUBLIC KEY-----\"\x7d\x7d"

/-- The public RSA key of modulus 3233 and exponent 17. -/
def smallKey : KeyMaterial := ⟨.rsa, [0x30, 7, 2, 2, 0x0c, 0xa1, 2, 1, 0x11]⟩

def mixedRing : KeyRing :=
  (withSecret .empty "did:web:holder" (Text.Utf8.octets "holder")).insert "did:web:issuer"
    ⟨.hs256, smallKey⟩

theorem ofText_mixedFile : ofText mixedFile = .ok mixedRing :=
  toOption_eq_some_iff.mp (by decide +kernel)

theorem yields_iff_of_mixedFile :
    ofText mixedFile = .ok mixedRing ∧
      ∃ entries, entriesOf? mixedFile = some entries ∧
        (∀ did, (mixedRing.find? did).isSome = (entries.find? did).isSome) ∧
        ∀ did key, mixedRing.find? did = some key → ∃ entry, entries.find? did = some entry ∧
          entry.algorithm = key.algorithm ∧
          (entry.Yields key.material ↔ ¬ entry.LacksSecret) ∧
          ∀ (verifier : Access.Verifier) (α : Type) (read : Value → Reading α) (now : Time.Instant)
            (written : String) (audience : Option String) (token : Token),
            verifier.keys.find? did = some key → Token.ofText written = .ok token →
              token.algorithm = .ok key.algorithm →
                (verifier.verifySigned now read written did audience =
                    .error (Access.wrongFamily did) ↔ entry.LacksSecret) :=
  ⟨ofText_mixedFile, yields_iff_of_ofText ofText_mixedFile⟩

/-- The file is taken although one of its keys is of another family than its algorithm, and
every token of the algorithm is refused for that. -/
theorem mixedFile_misread :
    ofText mixedFile = .ok mixedRing ∧
      mixedRing.find? "did:web:issuer" = some ⟨.hs256, smallKey⟩ ∧
      smallKey.family ≠ Algorithm.hs256.family ∧
      ∀ (verifier : Access.Verifier) (α : Type) (read : Value → Reading α) (now : Time.Instant)
        (written : String) (audience : Option String) (token : Token),
        verifier.keys = mixedRing → Token.ofText written = .ok token →
          token.algorithm = .ok .hs256 →
            verifier.verifySigned now read written "did:web:issuer" audience =
              .error (Access.wrongFamily "did:web:issuer") := by
  have known : mixedRing.find? "did:web:issuer" = some ⟨.hs256, smallKey⟩ := by decide
  refine ⟨ofText_mixedFile, known, by decide, ?_⟩
  intro verifier α read now written audience token keys parts named
  exact (Access.Verifier.verifySigned_eq_wrongFamily_iff parts named
    (by rw [keys]; exact known)).mpr (by decide)

end KeyRing
end BpnDirectory
