import Swtrust.Library.Steady
import Swtrust.Structures.Canonical
import Swtrust.Structures.Keys
import Swtrust.Structures.Signature
import Swtrust.Structures.Context
import Swtrust.Structures.Attest

set_option autoImplicit false

-- The structures a caller sends are taken in one form only: the octets that a reader accepts are those the structure
-- is written as, and these are read as nothing else. A Name or a digest over the written form is one over what came in.

namespace Swtrust

open Library

theorem steady_guarded {α : Type} (c : Prop) [Decidable c] (e : TpmRc) (rest : Reader α) (steady : Steady rest) :
    Steady (do
      if c then throw e
      rest : Reader α) := by
  by_cases holds : c
  · simp only [if_pos holds]
    exact steady_bind _ _ (steady_throw e) fun _ => steady
  · simp only [if_neg holds]
    exact steady

theorem rewrites_guarded {α : Type} (taken : Bytes) (c : Prop) [Decidable c] (e : TpmRc) (rest : Reader α)
    (encode : α → Bytes) (rewrites : ¬ c → Rewrites taken rest encode) :
    Rewrites taken (do
      if c then throw e
      rest : Reader α) encode := by
  by_cases holds : c
  · simp only [if_pos holds]
    exact rewrites_throw taken e encode
  · simp only [if_neg holds]
    exact rewrites holds

theorem rewrites_ite {α : Type} (taken : Bytes) (c : Prop) [Decidable c] (yes no : Reader α) (encode : α → Bytes)
    (first : c → Rewrites taken yes encode) (second : ¬ c → Rewrites taken no encode) :
    Rewrites taken (if c then yes else no) encode := by
  by_cases holds : c
  · rw [if_pos holds]
    exact first holds
  · rw [if_neg holds]
    exact second holds

theorem yields_guarded {α : Type} (c : Prop) [Decidable c] (e : TpmRc) (rest : Reader α) (good : α → Prop)
    (yields : ¬ c → Yields rest good) :
    Yields (do
      if c then throw e
      rest : Reader α) good := by
  by_cases holds : c
  · simp only [if_pos holds]
    exact yields_bind_known _ _ (fun _ => False) _ (yields_throw e _) fun _ never => never.elim
  · simp only [if_neg holds]
    exact yields holds

theorem canonical_u8 : Canonical u8 be8 :=
  canonical_number 1 UInt8.ofNat be8 fun number small => by
    rw [be8]
    simp [beBytes]

theorem canonical_u64 : Canonical u64 be64 :=
  canonical_number 8 UInt64.ofNat be64 fun number small => by rw [be64, UInt64.toNat_ofNat_of_lt' small]

theorem steady_u8 : Steady u8 := steady_bind _ _ (steady_take_nat _ 1) fun _ => steady_pure _
theorem steady_u16 : Steady u16 := steady_bind _ _ (steady_take_nat _ 2) fun _ => steady_pure _
theorem steady_u32 : Steady u32 := steady_bind _ _ (steady_take_nat _ 4) fun _ => steady_pure _
theorem steady_u64 : Steady u64 := steady_bind _ _ (steady_take_nat _ 8) fun _ => steady_pure _

theorem canonical_sized16 {α : Type} (reader : Reader α) (encode : α → Bytes) (canonical : Canonical reader encode) :
    Canonical reader.sized16 fun value => sized16 (encode value) := by
  refine rewrites_bind _ _ _ be16 _ canonical_u16 fun size => ?_
  intro input value rest ran
  obtain ⟨written, length⟩ := within_body _ _ size.toNat reader encode canonical input rest value ran
  show [] ++ be16 size ++ input = sized16 (encode value) ++ rest
  rw [written, sized16, length, UInt16.ofNat_toNat, List.nil_append, List.append_assoc]

theorem steady_sized16 {α : Type} (reader : Reader α) : Steady reader.sized16 :=
  steady_bind _ _ steady_u16 fun size => steady_within _ _ size.toNat reader

theorem steady_tpm2b {max : Nat} : Steady (Tpm2b.unmarshal : Reader (Tpm2b max)) := by
  refine steady_bind _ _ steady_u16 fun size => ?_
  refine steady_guarded _ _ _ ?_
  exact steady_bind _ _ (steady_take_octets _ size.toNat) fun buffer => steady_lift _

theorem canonical_list {α : Type} (reader : Reader α) (max : Nat) (encode : α → Bytes)
    (canonical : Canonical reader encode) : Canonical (unmarshalList reader max) (marshalList encode) := by
  refine rewrites_bind _ _ _ be32 _ canonical_u32 fun count => ?_
  refine rewrites_guarded _ _ _ _ _ fun _ => ?_
  intro input items rest ran
  have written : input = items.flatMap encode ++ rest := canonical_many reader encode canonical count.toNat input items rest ran
  have length := many_length reader count.toNat input items rest ran
  rw [written, marshalList, length, UInt32.ofNat_toNat, List.nil_append, List.append_assoc]

theorem steady_list {α : Type} (reader : Reader α) (max : Nat) (steady : Steady reader) :
    Steady (unmarshalList reader max) := by
  refine steady_bind _ _ steady_u32 fun count => ?_
  exact steady_guarded _ _ _ (steady_many reader steady count.toNat)

theorem canonical_flags {reserved : UInt32} : Canonical (Flags32.unmarshal : Reader (Flags32 reserved)) Flags32.marshal := by
  refine rewrites_bind _ _ _ be32 _ canonical_u32 fun value => ?_
  intro input flags rest ran
  obtain ⟨u, middle, checked, ran⟩ := (reader_bind_is_ok _ _ _ _ _).mp ran
  have same := run_lift_rest _ input middle u checked
  cases ran
  rw [same]
  rfl

theorem steady_flags {reserved : UInt32} : Steady (Flags32.unmarshal : Reader (Flags32 reserved)) := by
  refine steady_bind _ _ steady_u32 fun value => ?_
  exact steady_bind _ _ (steady_lift _) fun _ => steady_pure _

theorem canonical_yes_no : Canonical unmarshalYesNo beBool := by
  refine rewrites_bind _ _ _ be8 _ canonical_u8 fun octet => ?_
  by_cases no : octet = 0
  · rw [if_pos no, no]
    exact rewrites_pure _ _ _ rfl
  · rw [if_neg no]
    by_cases yes : octet = 1
    · rw [if_pos yes, yes]
      exact rewrites_pure _ _ _ rfl
    · rw [if_neg yes]
      exact rewrites_throw _ _ _

theorem steady_yes_no : Steady unmarshalYesNo := by
  refine steady_bind _ _ steady_u8 fun octet => ?_
  exact steady_ite _ _ _ (steady_pure _) (steady_ite _ _ _ (steady_pure _) (steady_throw _))

theorem canonical_select : Canonical PcrSelect.unmarshal PcrSelect.marshal := by
  refine rewrites_bind _ _ _ be8 _ canonical_u8 fun size => ?_
  refine rewrites_guarded _ _ _ _ _ fun _ => ?_
  intro input select rest ran
  obtain ⟨bits, middle, taken, ran⟩ := (reader_bind_is_ok _ _ _ _ _).mp ran
  cases ran
  have written : input = bits ++ rest := canonical_take_octets _ size.toNat input bits _ taken
  have length := take_octets_length _ size.toNat input bits _ taken
  rw [written, PcrSelect.marshal, length, UInt8.ofNat_toNat, List.nil_append, List.append_assoc]

theorem steady_select : Steady PcrSelect.unmarshal := by
  refine steady_bind _ _ steady_u8 fun size => ?_
  refine steady_guarded _ _ _ ?_
  exact steady_bind _ _ (steady_take_octets _ size.toNat) fun _ => steady_pure _

section

variable [Profile]

theorem canonical_hash_alg (rc : TpmRc) : Canonical (readHashAlg rc) be16 := by
  refine rewrites_bind _ _ _ be16 _ canonical_u16 fun hashAlg => ?_
  exact rewrites_guarded _ _ _ _ _ fun _ => rewrites_pure _ _ _ rfl

theorem steady_hash_alg (rc : TpmRc) : Steady (readHashAlg rc) := by
  refine steady_bind _ _ steady_u16 fun hashAlg => ?_
  exact steady_guarded _ _ _ (steady_pure _)

theorem canonical_ha : Canonical TpmtHa.unmarshal TpmtHa.marshal := by
  refine rewrites_bind _ _ _ be16 _ canonical_u16 fun hashAlg => ?_
  by_cases null : hashAlg = Alg.null
  · rw [if_pos null]
    refine rewrites_pure _ _ _ ?_
    rw [TpmtHa.marshal, List.append_nil]
    rfl
  · rw [if_neg null]
    cases sized : digestSize hashAlg with
    | none => exact rewrites_throw _ _ _
    | some size =>
        refine rewrites_bind _ _ _ id _ (canonical_take_octets _ size) fun digest => ?_
        exact rewrites_pure _ _ _ rfl

theorem steady_ha : Steady TpmtHa.unmarshal := by
  refine steady_bind _ _ steady_u16 fun hashAlg => ?_
  refine steady_ite _ _ _ (steady_pure _) ?_
  cases digestSize hashAlg with
  | none => exact steady_throw _
  | some size => exact steady_bind _ _ (steady_take_octets _ size) fun _ => steady_pure _

theorem canonical_selection : Canonical PcrSelection.unmarshal PcrSelection.marshal := by
  refine rewrites_bind _ _ _ be16 _ (canonical_hash_alg _) fun hashAlg => ?_
  refine rewrites_bind _ _ _ PcrSelect.marshal _ canonical_select fun select => ?_
  exact rewrites_pure _ _ _ rfl

theorem steady_selection : Steady PcrSelection.unmarshal :=
  steady_bind _ _ (steady_hash_alg _) fun _ => steady_bind _ _ steady_select fun _ => steady_pure _

theorem canonical_selections : Canonical TpmlPcrSelection.unmarshal TpmlPcrSelection.marshal :=
  canonical_list _ _ _ canonical_selection

theorem steady_selections : Steady TpmlPcrSelection.unmarshal := steady_list _ _ steady_selection

theorem canonical_detail (kind : DetailKind) : Canonical (SchemeDetail.read kind) SchemeDetail.write := by
  cases kind with
  | empty => exact rewrites_pure _ _ _ rfl
  | hash =>
      refine rewrites_bind _ _ _ be16 _ (canonical_hash_alg _) fun hashAlg => ?_
      exact rewrites_pure _ _ _ rfl
  | ecdaa =>
      refine rewrites_bind _ _ _ be16 _ (canonical_hash_alg _) fun hashAlg => ?_
      refine rewrites_bind _ _ _ be16 _ canonical_u16 fun count => ?_
      exact rewrites_pure _ _ _ rfl
  | xor =>
      refine rewrites_bind _ _ _ be16 _ (canonical_hash_alg _) fun hashAlg => ?_
      refine rewrites_bind _ _ _ be16 _ canonical_u16 fun kdf => ?_
      exact rewrites_guarded _ _ _ _ _ fun _ => rewrites_pure _ _ _ rfl

theorem steady_detail (kind : DetailKind) : Steady (SchemeDetail.read kind) := by
  cases kind with
  | empty => exact steady_pure _
  | hash => exact steady_bind _ _ (steady_hash_alg _) fun _ => steady_pure _
  | ecdaa => exact steady_bind _ _ (steady_hash_alg _) fun _ => steady_bind _ _ steady_u16 fun _ => steady_pure _
  | xor =>
      refine steady_bind _ _ (steady_hash_alg _) fun hashAlg => ?_
      refine steady_bind _ _ steady_u16 fun kdf => ?_
      exact steady_guarded _ _ _ (steady_pure _)

-- A scheme is read as its selector and the details of one kind.
theorem rewrites_scheme (scheme : UInt16) (kind : DetailKind) :
    Rewrites (be16 scheme) (do return (⟨scheme, ← SchemeDetail.read kind⟩ : Scheme)) Scheme.marshal := by
  refine rewrites_bind _ _ _ SchemeDetail.write _ (canonical_detail kind) fun detail => ?_
  exact rewrites_pure _ _ _ rfl

theorem steady_scheme (scheme : UInt16) (kind : DetailKind) :
    Steady (do return (⟨scheme, ← SchemeDetail.read kind⟩ : Scheme)) :=
  steady_bind _ _ (steady_detail kind) fun _ => steady_pure _

theorem canonical_scheme_checked (accepts : UInt16 → Bool) (code : TpmRc) :
    Canonical (Scheme.unmarshalChecked accepts code) Scheme.marshal := by
  refine rewrites_bind _ _ _ be16 _ canonical_u16 fun scheme => ?_
  refine rewrites_guarded _ _ _ _ _ fun _ => ?_
  cases asymDetailKind scheme with
  | none => exact rewrites_throw _ _ _
  | some kind => exact rewrites_scheme scheme kind

theorem steady_scheme_checked (accepts : UInt16 → Bool) (code : TpmRc) :
    Steady (Scheme.unmarshalChecked accepts code) := by
  refine steady_bind _ _ steady_u16 fun scheme => ?_
  refine steady_guarded _ _ _ ?_
  cases asymDetailKind scheme with
  | none => exact steady_throw _
  | some kind => exact steady_scheme scheme kind

theorem canonical_keyedhash_scheme : Canonical Scheme.unmarshalKeyedhash Scheme.marshal := by
  refine rewrites_bind _ _ _ be16 _ canonical_u16 fun scheme => ?_
  refine rewrites_ite _ _ _ _ _ (fun _ => rewrites_scheme scheme _) fun _ => ?_
  refine rewrites_ite _ _ _ _ _ (fun _ => rewrites_scheme scheme _) fun _ => ?_
  exact rewrites_ite _ _ _ _ _ (fun _ => rewrites_scheme scheme _) fun _ => rewrites_throw _ _ _

theorem steady_keyedhash_scheme : Steady Scheme.unmarshalKeyedhash := by
  refine steady_bind _ _ steady_u16 fun scheme => ?_
  refine steady_ite _ _ _ (steady_scheme scheme _) (steady_ite _ _ _ (steady_scheme scheme _) ?_)
  exact steady_ite _ _ _ (steady_scheme scheme _) (steady_throw _)

theorem canonical_kdf : Canonical Scheme.unmarshalKdf Scheme.marshal := by
  refine rewrites_bind _ _ _ be16 _ canonical_u16 fun scheme => ?_
  refine rewrites_ite _ _ _ _ _ (fun _ => rewrites_scheme scheme _) fun _ => ?_
  exact rewrites_ite _ _ _ _ _ (fun _ => rewrites_scheme scheme _) fun _ => rewrites_throw _ _ _

theorem steady_kdf : Steady Scheme.unmarshalKdf := by
  refine steady_bind _ _ steady_u16 fun scheme => ?_
  exact steady_ite _ _ _ (steady_scheme scheme _) (steady_ite _ _ _ (steady_scheme scheme _) (steady_throw _))

theorem canonical_sym_def : Canonical SymDef.unmarshalSymDef SymDef.marshal := by
  refine rewrites_bind _ _ _ be16 _ canonical_u16 fun algorithm => ?_
  by_cases null : algorithm = Alg.null
  · simp only [if_pos null]
    refine rewrites_pure _ _ _ ?_
    rw [null]
    rfl
  simp only [if_neg null]
  by_cases xor : algorithm = Alg.xor
  · simp only [if_pos xor]
    refine rewrites_bind _ _ _ be16 _ (canonical_hash_alg _) fun keyBits => ?_
    refine rewrites_pure _ _ _ ?_
    rw [SymDef.marshal, if_neg null, if_neg (not_not.mpr xor), List.append_nil]
    rfl
  · simp only [if_neg xor]
    refine rewrites_guarded _ _ _ _ _ fun _ => ?_
    refine rewrites_bind _ _ _ be16 _ canonical_u16 fun keyBits => ?_
    refine rewrites_guarded _ _ _ _ _ fun _ => ?_
    refine rewrites_bind _ _ _ be16 _ canonical_u16 fun mode => ?_
    refine rewrites_guarded _ _ _ _ _ fun _ => rewrites_pure _ _ _ ?_
    rw [SymDef.marshal, if_neg null, if_pos xor]
    rfl

theorem steady_sym_def : Steady SymDef.unmarshalSymDef := by
  refine steady_bind _ _ steady_u16 fun algorithm => ?_
  by_cases null : algorithm = Alg.null
  · simp only [if_pos null]
    exact steady_pure _
  simp only [if_neg null]
  by_cases xor : algorithm = Alg.xor
  · simp only [if_pos xor]
    exact steady_bind _ _ (steady_hash_alg _) fun _ => steady_pure _
  · simp only [if_neg xor]
    refine steady_guarded _ _ _ (steady_bind _ _ steady_u16 fun keyBits => ?_)
    refine steady_guarded _ _ _ (steady_bind _ _ steady_u16 fun mode => ?_)
    exact steady_guarded _ _ _ (steady_pure _)

-- The symmetric definitions that are read: none, a mask of a hash, or a block cipher with a key size and a mode of it.
def SymDef.Admitted (sym : SymDef) : Prop :=
  sym = SymDef.null ∨ (sym.algorithm = Alg.xor ∧ (digestSize sym.keyBits).isSome ∧ sym.mode = Alg.null) ∨
    (sym.algorithm = Alg.aes ∧ sym.keyBits ∈ Config.implementedAesKeyBits ∧ SymDef.isMode sym.mode = true)

theorem hash_alg_yields (rc : TpmRc) : Yields (readHashAlg rc) fun hashAlg => (digestSize hashAlg).isSome = true := by
  refine yields_bind _ _ _ fun hashAlg => yields_guarded _ _ _ _ fun known => yields_pure _ _ ?_
  simpa [Option.isSome_iff_ne_none] using known

theorem sym_def_yields : Yields SymDef.unmarshalSymDef SymDef.Admitted := by
  refine yields_bind _ _ _ fun algorithm => ?_
  by_cases null : algorithm = Alg.null
  · simp only [if_pos null]
    exact yields_pure _ _ (.inl rfl)
  simp only [if_neg null]
  by_cases xor : algorithm = Alg.xor
  · simp only [if_pos xor]
    refine yields_bind_known _ _ _ _ (hash_alg_yields _) fun keyBits sized => yields_pure _ _ ?_
    exact .inr (.inl ⟨xor, sized, rfl⟩)
  · simp only [if_neg xor]
    refine yields_guarded _ _ _ _ fun cipher => yields_bind _ _ _ fun keyBits => ?_
    refine yields_guarded _ _ _ _ fun size => yields_bind _ _ _ fun mode => ?_
    refine yields_guarded _ _ _ _ fun known => yields_pure _ _ (.inr (.inr ⟨?_, ?_, by simpa using known⟩))
    · simpa [SymDef.isBlockCipher] using cipher
    · simp only [SymDef.isKeySize, Bool.not_eq_true', Bool.not_eq_false, Bool.and_eq_true, List.contains_eq_mem,
        decide_eq_true_eq] at size
      exact size.2

theorem decodes_sym_def (sym : SymDef) (admitted : sym.Admitted) : Decodes SymDef.unmarshalSymDef sym.marshal sym := by
  obtain ⟨algorithm, keyBits, mode⟩ := sym
  rcases admitted with null | ⟨xor, sized, unset⟩ | ⟨aes, size, known⟩
  · cases null
    exact decodes_bind_last _ _ _ _ _ (decodes_u16 _) (decodes_pure _)
  · obtain rfl : algorithm = Alg.xor := xor
    obtain rfl : mode = Alg.null := unset
    have written : SymDef.marshal ⟨Alg.xor, keyBits, Alg.null⟩ = be16 Alg.xor ++ be16 keyBits :=
      List.append_nil _
    have held : (digestSize keyBits).isNone = false := by
      simpa [Option.isSome_iff_ne_none] using sized
    rw [written]
    refine decodes_bind _ _ _ _ _ _ (decodes_u16 _) ?_
    refine decodes_bind_last _ _ _ keyBits _ ?_ (decodes_pure _)
    refine decodes_bind_last _ _ _ _ _ (decodes_u16 _) ?_
    simp only [held]
    exact decodes_pure _
  · obtain rfl : algorithm = Alg.aes := aes
    have fits : SymDef.isKeySize Alg.aes keyBits = true := by
      simpa [SymDef.isKeySize, List.contains_eq_mem] using size
    have written : SymDef.marshal ⟨Alg.aes, keyBits, mode⟩ = be16 Alg.aes ++ (be16 keyBits ++ be16 mode) :=
      List.append_assoc _ _ _
    rw [written]
    refine decodes_bind _ _ _ _ _ _ (decodes_u16 _) ?_
    refine decodes_bind _ _ _ _ _ _ (decodes_u16 _) ?_
    simp only [fits]
    refine decodes_bind_last _ _ _ _ _ (decodes_u16 _) ?_
    simp only [show SymDef.isMode mode = true from known]
    exact decodes_pure _

theorem canonical_sym_object : Canonical SymDef.unmarshalSymDefObject SymDef.marshal := by
  refine rewrites_bind _ _ _ SymDef.marshal _ canonical_sym_def fun sym => ?_
  exact rewrites_guarded _ _ _ _ _ fun _ => rewrites_pure _ _ _ rfl

theorem steady_sym_object : Steady SymDef.unmarshalSymDefObject := by
  refine steady_bind _ _ steady_sym_def fun sym => ?_
  exact steady_guarded _ _ _ (steady_pure _)

theorem canonical_parms (selector : UInt16) : Canonical (PublicParms.unmarshalWith selector) PublicParms.marshal := by
  refine rewrites_ite _ _ _ _ _ (fun _ => ?_) fun _ => rewrites_ite _ _ _ _ _ (fun _ => ?_) fun _ =>
    rewrites_ite _ _ _ _ _ (fun _ => ?_) fun _ => rewrites_ite _ _ _ _ _ (fun _ => ?_) fun _ => rewrites_throw _ _ _
  · refine rewrites_bind _ _ _ Scheme.marshal _ canonical_keyedhash_scheme fun scheme => ?_
    exact rewrites_pure _ _ _ rfl
  · refine rewrites_bind _ _ _ SymDef.marshal _ canonical_sym_object fun sym => ?_
    exact rewrites_pure _ _ _ rfl
  · refine rewrites_bind _ _ _ SymDef.marshal _ canonical_sym_object fun symmetric => ?_
    refine rewrites_bind _ _ _ Scheme.marshal _ (canonical_scheme_checked _ _) fun scheme => ?_
    refine rewrites_bind _ _ _ be16 _ canonical_u16 fun keyBits => ?_
    refine rewrites_guarded _ _ _ _ _ fun _ => ?_
    refine rewrites_bind _ _ _ be32 _ canonical_u32 fun exponent => ?_
    exact rewrites_guarded _ _ _ _ _ fun _ => rewrites_pure _ _ _ rfl
  · refine rewrites_bind _ _ _ SymDef.marshal _ canonical_sym_object fun symmetric => ?_
    refine rewrites_bind _ _ _ Scheme.marshal _ (canonical_scheme_checked _ _) fun scheme => ?_
    refine rewrites_bind _ _ _ be16 _ canonical_u16 fun curveId => ?_
    refine rewrites_guarded _ _ _ _ _ fun _ => ?_
    refine rewrites_bind _ _ _ Scheme.marshal _ canonical_kdf fun kdf => ?_
    exact rewrites_pure _ _ _ rfl

theorem steady_parms (selector : UInt16) : Steady (PublicParms.unmarshalWith selector) := by
  refine steady_ite _ _ _ ?_ (steady_ite _ _ _ ?_ (steady_ite _ _ _ ?_ (steady_ite _ _ _ ?_ (steady_throw _))))
  · exact steady_bind _ _ steady_keyedhash_scheme fun _ => steady_pure _
  · exact steady_bind _ _ steady_sym_object fun _ => steady_pure _
  · refine steady_bind _ _ steady_sym_object fun symmetric => ?_
    refine steady_bind _ _ (steady_scheme_checked _ _) fun scheme => ?_
    refine steady_bind _ _ steady_u16 fun keyBits => ?_
    refine steady_guarded _ _ _ (steady_bind _ _ steady_u32 fun exponent => ?_)
    exact steady_guarded _ _ _ (steady_pure _)
  · refine steady_bind _ _ steady_sym_object fun symmetric => ?_
    refine steady_bind _ _ (steady_scheme_checked _ _) fun scheme => ?_
    refine steady_bind _ _ steady_u16 fun curveId => ?_
    exact steady_guarded _ _ _ (steady_bind _ _ steady_kdf fun _ => steady_pure _)

end

theorem canonical_point : Canonical EccPoint.unmarshal EccPoint.marshal := by
  refine rewrites_bind _ _ _ Tpm2b.marshal _ canonical_tpm2b fun x => ?_
  refine rewrites_bind _ _ _ Tpm2b.marshal _ canonical_tpm2b fun y => ?_
  exact rewrites_pure _ _ _ rfl

theorem steady_point : Steady EccPoint.unmarshal :=
  steady_bind _ _ steady_tpm2b fun _ => steady_bind _ _ steady_tpm2b fun _ => steady_pure _

theorem canonical_derive : Canonical Derive.unmarshal Derive.marshal := by
  refine rewrites_bind _ _ _ Tpm2b.marshal _ canonical_tpm2b fun label => ?_
  refine rewrites_bind _ _ _ Tpm2b.marshal _ canonical_tpm2b fun context => ?_
  exact rewrites_pure _ _ _ rfl

theorem steady_derive : Steady Derive.unmarshal :=
  steady_bind _ _ steady_tpm2b fun _ => steady_bind _ _ steady_tpm2b fun _ => steady_pure _

-- One buffer, wrapped.
theorem rewrites_wrapped {α β : Type} (reader : Reader α) (write : α → Bytes) (canonical : Canonical reader write)
    (wrap : α → β) (encode : β → Bytes) (same : ∀ a, write a = encode (wrap a)) :
    Canonical (do return wrap (← reader)) encode := by
  refine rewrites_bind _ _ _ write _ canonical fun a => ?_
  exact rewrites_pure _ _ _ (same a)

theorem canonical_public_id (selector : UInt16) : Canonical (PublicId.unmarshalWith selector) PublicId.marshal := by
  refine rewrites_ite _ _ _ _ _ (fun _ => ?_) fun _ => rewrites_ite _ _ _ _ _ (fun _ => ?_) fun _ =>
    rewrites_ite _ _ _ _ _ (fun _ => ?_) fun _ => rewrites_ite _ _ _ _ _ (fun _ => ?_) fun _ => rewrites_throw _ _ _
  · exact rewrites_wrapped _ _ canonical_tpm2b PublicId.keyedHash _ fun _ => rfl
  · exact rewrites_wrapped _ _ canonical_tpm2b PublicId.sym _ fun _ => rfl
  · exact rewrites_wrapped _ _ canonical_tpm2b PublicId.rsa _ fun _ => rfl
  · exact rewrites_wrapped _ _ canonical_point PublicId.ecc _ fun _ => rfl

theorem steady_public_id (selector : UInt16) : Steady (PublicId.unmarshalWith selector) := by
  refine steady_ite _ _ _ ?_ (steady_ite _ _ _ ?_ (steady_ite _ _ _ ?_ (steady_ite _ _ _ ?_ (steady_throw _))))
  · exact steady_bind _ _ steady_tpm2b fun _ => steady_pure _
  · exact steady_bind _ _ steady_tpm2b fun _ => steady_pure _
  · exact steady_bind _ _ steady_tpm2b fun _ => steady_pure _
  · exact steady_bind _ _ steady_point fun _ => steady_pure _

theorem canonical_composite (selector : UInt16) :
    Canonical (SensitiveComposite.unmarshalWith selector) SensitiveComposite.marshal := by
  refine rewrites_ite _ _ _ _ _ (fun _ => ?_) fun _ => rewrites_ite _ _ _ _ _ (fun _ => ?_) fun _ =>
    rewrites_ite _ _ _ _ _ (fun _ => ?_) fun _ => rewrites_ite _ _ _ _ _ (fun _ => ?_) fun _ => rewrites_throw _ _ _
  · exact rewrites_wrapped _ _ canonical_tpm2b SensitiveComposite.rsa _ fun _ => rfl
  · exact rewrites_wrapped _ _ canonical_tpm2b SensitiveComposite.ecc _ fun _ => rfl
  · exact rewrites_wrapped _ _ canonical_tpm2b SensitiveComposite.bits _ fun _ => rfl
  · exact rewrites_wrapped _ _ canonical_tpm2b SensitiveComposite.sym _ fun _ => rfl

theorem steady_composite (selector : UInt16) : Steady (SensitiveComposite.unmarshalWith selector) := by
  refine steady_ite _ _ _ ?_ (steady_ite _ _ _ ?_ (steady_ite _ _ _ ?_ (steady_ite _ _ _ ?_ (steady_throw _)))) <;>
    exact steady_bind _ _ steady_tpm2b fun _ => steady_pure _

theorem canonical_sensitive : Canonical TpmtSensitive.unmarshal TpmtSensitive.marshal := by
  refine rewrites_bind _ _ _ be16 _ canonical_u16 fun sensitiveType => ?_
  refine rewrites_guarded _ _ _ _ _ fun _ => ?_
  refine rewrites_bind _ _ _ Tpm2b.marshal _ canonical_tpm2b fun authValue => ?_
  refine rewrites_bind _ _ _ Tpm2b.marshal _ canonical_tpm2b fun seedValue => ?_
  refine rewrites_bind _ _ _ _ _ (canonical_composite sensitiveType) fun sensitive => ?_
  exact rewrites_pure _ _ _ rfl

theorem steady_sensitive : Steady TpmtSensitive.unmarshal := by
  refine steady_bind _ _ steady_u16 fun sensitiveType => ?_
  refine steady_guarded _ _ _ (steady_bind _ _ steady_tpm2b fun authValue => ?_)
  refine steady_bind _ _ steady_tpm2b fun seedValue => ?_
  exact steady_bind _ _ (steady_composite sensitiveType) fun _ => steady_pure _

theorem canonical_ticket (allowed : List UInt16) : Canonical (Ticket.unmarshalTagged allowed) Ticket.marshal := by
  refine rewrites_bind _ _ _ be16 _ canonical_u16 fun tag => ?_
  refine rewrites_guarded _ _ _ _ _ fun _ => ?_
  refine rewrites_bind _ _ _ be32 _ canonical_u32 fun hierarchy => ?_
  refine rewrites_guarded _ _ _ _ _ fun _ => ?_
  refine rewrites_bind _ _ _ Tpm2b.marshal _ canonical_tpm2b fun digest => ?_
  exact rewrites_pure _ _ _ rfl

theorem steady_ticket (allowed : List UInt16) : Steady (Ticket.unmarshalTagged allowed) := by
  refine steady_bind _ _ steady_u16 fun tag => ?_
  refine steady_guarded _ _ _ (steady_bind _ _ steady_u32 fun hierarchy => ?_)
  exact steady_guarded _ _ _ (steady_bind _ _ steady_tpm2b fun _ => steady_pure _)

theorem canonical_context : Canonical Context.unmarshal Context.marshal := by
  refine rewrites_bind _ _ _ be64 _ canonical_u64 fun sequence => ?_
  refine rewrites_bind _ _ _ be32 _ canonical_u32 fun savedHandle => ?_
  refine rewrites_bind _ _ _ be32 _ canonical_u32 fun hierarchy => ?_
  refine rewrites_bind _ _ _ Tpm2b.marshal _ canonical_tpm2b fun contextBlob => ?_
  exact rewrites_pure _ _ _ rfl

theorem steady_context : Steady Context.unmarshal :=
  steady_bind _ _ steady_u64 fun _ => steady_bind _ _ steady_u32 fun _ =>
    steady_bind _ _ steady_u32 fun _ => steady_bind _ _ steady_tpm2b fun _ => steady_pure _

theorem canonical_clock_info : Canonical ClockInfo.unmarshal ClockInfo.marshal := by
  refine rewrites_bind _ _ _ be64 _ canonical_u64 fun clock => ?_
  refine rewrites_bind _ _ _ be32 _ canonical_u32 fun resetCount => ?_
  refine rewrites_bind _ _ _ be32 _ canonical_u32 fun restartCount => ?_
  refine rewrites_bind _ _ _ beBool _ canonical_yes_no fun safe => ?_
  exact rewrites_pure _ _ _ rfl

theorem steady_clock_info : Steady ClockInfo.unmarshal :=
  steady_bind _ _ steady_u64 fun _ => steady_bind _ _ steady_u32 fun _ =>
    steady_bind _ _ steady_u32 fun _ => steady_bind _ _ steady_yes_no fun _ => steady_pure _

theorem canonical_time_info : Canonical TimeInfo.unmarshal TimeInfo.marshal := by
  refine rewrites_bind _ _ _ be64 _ canonical_u64 fun time => ?_
  refine rewrites_bind _ _ _ ClockInfo.marshal _ canonical_clock_info fun clockInfo => ?_
  exact rewrites_pure _ _ _ rfl

theorem steady_time_info : Steady TimeInfo.unmarshal :=
  steady_bind _ _ steady_u64 fun _ => steady_bind _ _ steady_clock_info fun _ => steady_pure _

section

variable [Profile]

theorem canonical_public (allowDerive : Bool) : Canonical (TpmtPublic.unmarshalWith allowDerive) TpmtPublic.marshal := by
  refine rewrites_bind _ _ _ be16 _ canonical_u16 fun objectType => ?_
  refine rewrites_guarded _ _ _ _ _ fun _ => ?_
  refine rewrites_bind _ _ _ be16 _ canonical_u16 fun nameAlg => ?_
  refine rewrites_guarded _ _ _ _ _ fun _ => ?_
  refine rewrites_bind _ _ _ Flags32.marshal _ canonical_flags fun objectAttributes => ?_
  refine rewrites_bind _ _ _ Tpm2b.marshal _ canonical_tpm2b fun authPolicy => ?_
  refine rewrites_bind _ _ _ _ _ (canonical_parms objectType) fun parameters => ?_
  cases allowDerive with
  | true =>
      refine rewrites_bind _ _ _ PublicId.marshal _ ?_ fun unique => rewrites_pure _ _ _ rfl
      rw [map_eq_pure_bind]
      exact rewrites_wrapped _ _ canonical_derive PublicId.derive _ fun _ => rfl
  | false =>
      refine rewrites_bind _ _ _ PublicId.marshal _ ?_ fun unique => rewrites_pure _ _ _ rfl
      exact canonical_public_id objectType

theorem steady_public (allowDerive : Bool) : Steady (TpmtPublic.unmarshalWith allowDerive) := by
  refine steady_bind _ _ steady_u16 fun objectType => ?_
  refine steady_guarded _ _ _ (steady_bind _ _ steady_u16 fun nameAlg => ?_)
  refine steady_guarded _ _ _ (steady_bind _ _ steady_flags fun objectAttributes => ?_)
  refine steady_bind _ _ steady_tpm2b fun authPolicy => ?_
  refine steady_bind _ _ (steady_parms objectType) fun parameters => ?_
  cases allowDerive with
  | true => exact steady_bind _ _ (steady_map _ _ steady_derive) fun _ => steady_pure _
  | false => exact steady_bind _ _ (steady_public_id objectType) fun _ => steady_pure _

theorem canonical_signature : Canonical TpmtSignature.unmarshal TpmtSignature.marshal := by
  refine rewrites_bind _ _ _ be16 _ canonical_u16 fun sigAlg => ?_
  refine rewrites_ite _ _ _ _ _ (fun _ => ?_) fun _ => rewrites_ite _ _ _ _ _ (fun _ => ?_) fun _ =>
    rewrites_ite _ _ _ _ _ (fun _ => ?_) fun _ => rewrites_ite _ _ _ _ _ (fun _ => ?_) fun _ => rewrites_throw _ _ _
  · refine rewrites_bind _ _ _ SignatureRsa.marshal _ ?_ fun signature => rewrites_pure _ _ _ rfl
    refine rewrites_bind _ _ _ be16 _ (canonical_hash_alg _) fun hash => ?_
    refine rewrites_bind _ _ _ Tpm2b.marshal _ canonical_tpm2b fun sig => ?_
    exact rewrites_pure _ _ _ rfl
  · refine rewrites_bind _ _ _ SignatureEcc.marshal _ ?_ fun signature => rewrites_pure _ _ _ rfl
    refine rewrites_bind _ _ _ be16 _ (canonical_hash_alg _) fun hash => ?_
    refine rewrites_bind _ _ _ Tpm2b.marshal _ canonical_tpm2b fun signatureR => ?_
    refine rewrites_bind _ _ _ Tpm2b.marshal _ canonical_tpm2b fun signatureS => ?_
    exact rewrites_pure _ _ _ rfl
  · refine rewrites_bind _ _ _ TpmtHa.marshal _ canonical_ha fun ha => ?_
    exact rewrites_pure _ _ _ rfl
  · refine rewrites_pure _ _ _ ?_
    rw [TpmtSignature.marshal, List.append_nil]
    rfl

theorem steady_signature : Steady TpmtSignature.unmarshal := by
  refine steady_bind _ _ steady_u16 fun sigAlg => ?_
  refine steady_ite _ _ _ ?_ (steady_ite _ _ _ ?_ (steady_ite _ _ _ ?_ (steady_ite _ _ _ (steady_pure _) (steady_throw _))))
  · refine steady_bind _ _ ?_ fun _ => steady_pure _
    exact steady_bind _ _ (steady_hash_alg _) fun _ => steady_bind _ _ steady_tpm2b fun _ => steady_pure _
  · refine steady_bind _ _ ?_ fun _ => steady_pure _
    refine steady_bind _ _ (steady_hash_alg _) fun _ => steady_bind _ _ steady_tpm2b fun _ => ?_
    exact steady_bind _ _ steady_tpm2b fun _ => steady_pure _
  · exact steady_bind _ _ steady_ha fun _ => steady_pure _

theorem canonical_nv_public : Canonical NvPublic.unmarshal NvPublic.marshal := by
  refine rewrites_bind _ _ _ be32 _ canonical_u32 fun nvIndex => ?_
  refine rewrites_bind _ _ _ be16 _ (canonical_hash_alg _) fun nameAlg => ?_
  refine rewrites_bind _ _ _ Flags32.marshal _ canonical_flags fun attributes => ?_
  refine rewrites_bind _ _ _ Tpm2b.marshal _ canonical_tpm2b fun authPolicy => ?_
  refine rewrites_bind _ _ _ be16 _ canonical_u16 fun dataSize => ?_
  exact rewrites_guarded _ _ _ _ _ fun _ => rewrites_pure _ _ _ rfl

theorem steady_nv_public : Steady NvPublic.unmarshal := by
  refine steady_bind _ _ steady_u32 fun _ => steady_bind _ _ (steady_hash_alg _) fun _ => ?_
  refine steady_bind _ _ steady_flags fun _ => steady_bind _ _ steady_tpm2b fun _ => ?_
  exact steady_bind _ _ steady_u16 fun _ => steady_guarded _ _ _ (steady_pure _)

-- The hash a ticket carries is there or not as its tag has it.
def writeMetadata (digestAlg : Option UInt16) : Bytes := (digestAlg.map be16).getD []

theorem canonical_verified_ticket : Canonical VerifiedTicket.unmarshal VerifiedTicket.marshal := by
  refine rewrites_bind _ _ _ be16 _ canonical_u16 fun tag => ?_
  refine rewrites_bind _ _ _ be32 _ canonical_u32 fun hierarchy => ?_
  refine rewrites_guarded _ _ _ _ _ fun _ => ?_
  have closed : ∀ digestAlg : Option UInt16, Rewrites ([] ++ be16 tag ++ be32 hierarchy ++ writeMetadata digestAlg)
      (do return ⟨tag, hierarchy, digestAlg, ← Tpm2b.unmarshal⟩ : Reader VerifiedTicket) VerifiedTicket.marshal := by
    intro digestAlg
    refine rewrites_bind _ _ _ Tpm2b.marshal _ canonical_tpm2b fun hmac => ?_
    exact rewrites_pure _ _ _ rfl
  refine rewrites_ite _ _ _ _ _ (fun _ => ?_) fun _ => rewrites_ite _ _ _ _ _ (fun _ => ?_) fun _ => ?_
  · exact rewrites_bind _ _ _ writeMetadata _ (rewrites_pure _ _ _ rfl) closed
  · refine rewrites_bind _ _ _ writeMetadata _ ?_ closed
    rw [map_eq_pure_bind]
    exact rewrites_wrapped _ _ (canonical_hash_alg _) some _ fun _ => rfl
  · exact rewrites_bind _ _ _ writeMetadata _ (rewrites_throw _ _ _) closed

theorem steady_verified_ticket : Steady VerifiedTicket.unmarshal := by
  refine steady_bind _ _ steady_u16 fun tag => steady_bind _ _ steady_u32 fun hierarchy => ?_
  refine steady_guarded _ _ _ (steady_ite _ _ _ ?_ (steady_ite _ _ _ ?_ ?_))
  · exact steady_bind _ _ (steady_pure _) fun _ => steady_bind _ _ steady_tpm2b fun _ => steady_pure _
  · refine steady_bind _ _ (steady_map _ _ (steady_hash_alg _)) fun _ => ?_
    exact steady_bind _ _ steady_tpm2b fun _ => steady_pure _
  · exact steady_bind _ _ (steady_throw _) fun _ => steady_bind _ _ steady_tpm2b fun _ => steady_pure _

-- The eight bodies an attestation can have, one selector each.
theorem canonical_attested (selector : UInt16) : Canonical (Attested.unmarshalWith selector) Attested.marshal := by
  refine rewrites_ite _ _ _ _ _ (fun _ => ?_) fun _ => rewrites_ite _ _ _ _ _ (fun _ => ?_) fun _ =>
    rewrites_ite _ _ _ _ _ (fun _ => ?_) fun _ => rewrites_ite _ _ _ _ _ (fun _ => ?_) fun _ =>
    rewrites_ite _ _ _ _ _ (fun _ => ?_) fun _ => rewrites_ite _ _ _ _ _ (fun _ => ?_) fun _ =>
    rewrites_ite _ _ _ _ _ (fun _ => ?_) fun _ => rewrites_ite _ _ _ _ _ (fun _ => ?_) fun _ => rewrites_throw _ _ _
  · refine rewrites_bind _ _ _ Tpm2b.marshal _ canonical_tpm2b fun name => ?_
    refine rewrites_bind _ _ _ Tpm2b.marshal _ canonical_tpm2b fun qualifiedName => ?_
    exact rewrites_pure _ _ _ rfl
  · refine rewrites_bind _ _ _ Tpm2b.marshal _ canonical_tpm2b fun objectName => ?_
    refine rewrites_bind _ _ _ Tpm2b.marshal _ canonical_tpm2b fun creationHash => ?_
    exact rewrites_pure _ _ _ rfl
  · refine rewrites_bind _ _ _ TpmlPcrSelection.marshal _ canonical_selections fun pcrSelect => ?_
    refine rewrites_bind _ _ _ Tpm2b.marshal _ canonical_tpm2b fun pcrDigest => ?_
    exact rewrites_pure _ _ _ rfl
  · refine rewrites_bind _ _ _ be64 _ canonical_u64 fun auditCounter => ?_
    refine rewrites_bind _ _ _ be16 _ canonical_u16 fun digestAlg => ?_
    refine rewrites_bind _ _ _ Tpm2b.marshal _ canonical_tpm2b fun auditDigest => ?_
    refine rewrites_bind _ _ _ Tpm2b.marshal _ canonical_tpm2b fun commandDigest => ?_
    exact rewrites_pure _ _ _ rfl
  · refine rewrites_bind _ _ _ beBool _ canonical_yes_no fun exclusiveSession => ?_
    refine rewrites_bind _ _ _ Tpm2b.marshal _ canonical_tpm2b fun sessionDigest => ?_
    exact rewrites_pure _ _ _ rfl
  · refine rewrites_bind _ _ _ TimeInfo.marshal _ canonical_time_info fun time => ?_
    refine rewrites_bind _ _ _ be64 _ canonical_u64 fun firmwareVersion => ?_
    exact rewrites_pure _ _ _ rfl
  · refine rewrites_bind _ _ _ Tpm2b.marshal _ canonical_tpm2b fun indexName => ?_
    refine rewrites_bind _ _ _ be16 _ canonical_u16 fun offset => ?_
    refine rewrites_bind _ _ _ Tpm2b.marshal _ canonical_tpm2b fun nvContents => ?_
    exact rewrites_pure _ _ _ rfl
  · refine rewrites_bind _ _ _ Tpm2b.marshal _ canonical_tpm2b fun indexName => ?_
    refine rewrites_bind _ _ _ Tpm2b.marshal _ canonical_tpm2b fun nvDigest => ?_
    exact rewrites_pure _ _ _ rfl

theorem steady_attested (selector : UInt16) : Steady (Attested.unmarshalWith selector) := by
  refine steady_ite _ _ _ ?_ (steady_ite _ _ _ ?_ (steady_ite _ _ _ ?_ (steady_ite _ _ _ ?_ (steady_ite _ _ _ ?_
    (steady_ite _ _ _ ?_ (steady_ite _ _ _ ?_ (steady_ite _ _ _ ?_ (steady_throw _))))))))
  · exact steady_bind _ _ steady_tpm2b fun _ => steady_bind _ _ steady_tpm2b fun _ => steady_pure _
  · exact steady_bind _ _ steady_tpm2b fun _ => steady_bind _ _ steady_tpm2b fun _ => steady_pure _
  · exact steady_bind _ _ steady_selections fun _ => steady_bind _ _ steady_tpm2b fun _ => steady_pure _
  · refine steady_bind _ _ steady_u64 fun _ => steady_bind _ _ steady_u16 fun _ => ?_
    exact steady_bind _ _ steady_tpm2b fun _ => steady_bind _ _ steady_tpm2b fun _ => steady_pure _
  · exact steady_bind _ _ steady_yes_no fun _ => steady_bind _ _ steady_tpm2b fun _ => steady_pure _
  · exact steady_bind _ _ steady_time_info fun _ => steady_bind _ _ steady_u64 fun _ => steady_pure _
  · refine steady_bind _ _ steady_tpm2b fun _ => steady_bind _ _ steady_u16 fun _ => ?_
    exact steady_bind _ _ steady_tpm2b fun _ => steady_pure _
  · exact steady_bind _ _ steady_tpm2b fun _ => steady_bind _ _ steady_tpm2b fun _ => steady_pure _

-- The body read under a selector is one of that selector, which the attestation writes before it.
theorem attested_selector (selector : UInt16) :
    Yields (Attested.unmarshalWith selector) fun attested => attested.selector = selector := by
  refine yields_ite _ _ _ _ (fun is => ?_) fun _ => yields_ite _ _ _ _ (fun is => ?_) fun _ =>
    yields_ite _ _ _ _ (fun is => ?_) fun _ => yields_ite _ _ _ _ (fun is => ?_) fun _ =>
    yields_ite _ _ _ _ (fun is => ?_) fun _ => yields_ite _ _ _ _ (fun is => ?_) fun _ =>
    yields_ite _ _ _ _ (fun is => ?_) fun _ => yields_ite _ _ _ _ (fun is => ?_) fun _ => yields_throw _ _
  · exact yields_bind _ _ _ fun _ => yields_bind _ _ _ fun _ => yields_pure _ _ is.symm
  · exact yields_bind _ _ _ fun _ => yields_bind _ _ _ fun _ => yields_pure _ _ is.symm
  · exact yields_bind _ _ _ fun _ => yields_bind _ _ _ fun _ => yields_pure _ _ is.symm
  · exact yields_bind _ _ _ fun _ => yields_bind _ _ _ fun _ => yields_bind _ _ _ fun _ =>
      yields_bind _ _ _ fun _ => yields_pure _ _ is.symm
  · exact yields_bind _ _ _ fun _ => yields_bind _ _ _ fun _ => yields_pure _ _ is.symm
  · exact yields_bind _ _ _ fun _ => yields_bind _ _ _ fun _ => yields_pure _ _ is.symm
  · exact yields_bind _ _ _ fun _ => yields_bind _ _ _ fun _ => yields_bind _ _ _ fun _ => yields_pure _ _ is.symm
  · exact yields_bind _ _ _ fun _ => yields_bind _ _ _ fun _ => yields_pure _ _ is.symm

theorem canonical_attest : Canonical Attest.unmarshal Attest.marshal := by
  refine rewrites_bind _ _ _ be32 _ canonical_u32 fun magic => ?_
  refine rewrites_guarded _ _ _ _ _ fun _ => ?_
  refine rewrites_bind _ _ _ be16 _ canonical_u16 fun selector => ?_
  refine rewrites_bind _ _ _ Tpm2b.marshal _ canonical_tpm2b fun qualifiedSigner => ?_
  refine rewrites_bind _ _ _ Tpm2b.marshal _ canonical_tpm2b fun extraData => ?_
  refine rewrites_bind _ _ _ ClockInfo.marshal _ canonical_clock_info fun clockInfo => ?_
  refine rewrites_bind _ _ _ be64 _ canonical_u64 fun firmwareVersion => ?_
  refine rewrites_bind_known _ _ _ _ _ _ (canonical_attested selector) (attested_selector selector) ?_
  intro attested is
  refine rewrites_pure _ _ _ ?_
  rw [← is]
  rfl

theorem steady_attest : Steady Attest.unmarshal := by
  refine steady_bind _ _ steady_u32 fun magic => ?_
  refine steady_guarded _ _ _ (steady_bind _ _ steady_u16 fun selector => ?_)
  refine steady_bind _ _ steady_tpm2b fun _ => steady_bind _ _ steady_tpm2b fun _ => ?_
  refine steady_bind _ _ steady_clock_info fun _ => steady_bind _ _ steady_u64 fun _ => ?_
  exact steady_bind _ _ (steady_attested selector) fun _ => steady_pure _

-- An object's two areas, as they stand and as the sized structures a command carries.
theorem object_areas_read_back (allowDerive : Bool) :
    ReadsBack (TpmtPublic.unmarshalWith allowDerive) TpmtPublic.marshal ∧
    ReadsBack TpmtSensitive.unmarshal TpmtSensitive.marshal ∧
    ReadsBack TpmtPublic.unmarshalSized TpmtPublic.marshalSized ∧
    ReadsBack TpmtSensitive.unmarshalSized TpmtSensitive.marshalSized := by
  refine ⟨?_, ?_, ?_, ?_⟩
  · exact reads_back _ _ (canonical_public allowDerive) (steady_public allowDerive)
  · exact reads_back _ _ canonical_sensitive steady_sensitive
  · exact reads_back _ _ (canonical_sized16 _ _ (canonical_public false)) (steady_sized16 _)
  · exact reads_back _ _ (canonical_sized16 _ _ canonical_sensitive) (steady_sized16 _)

-- What is signed and what is signed with it.
theorem attestations_read_back :
    ReadsBack Attest.unmarshal Attest.marshal ∧ ReadsBack TpmtSignature.unmarshal TpmtSignature.marshal :=
  ⟨reads_back _ _ canonical_attest steady_attest, reads_back _ _ canonical_signature steady_signature⟩

-- What the TPM gave out once and is handed back to it.
theorem handed_back_read_back (allowed : List UInt16) :
    ReadsBack (Ticket.unmarshalTagged allowed) Ticket.marshal ∧
    ReadsBack VerifiedTicket.unmarshal VerifiedTicket.marshal ∧ ReadsBack Context.unmarshal Context.marshal ∧
    ReadsBack NvPublic.unmarshal NvPublic.marshal ∧
    ReadsBack TpmlPcrSelection.unmarshal TpmlPcrSelection.marshal := by
  refine ⟨?_, ?_, ?_, ?_, ?_⟩
  · exact reads_back _ _ (canonical_ticket allowed) (steady_ticket allowed)
  · exact reads_back _ _ canonical_verified_ticket steady_verified_ticket
  · exact reads_back _ _ canonical_context steady_context
  · exact reads_back _ _ canonical_nv_public steady_nv_public
  · exact reads_back _ _ canonical_selections steady_selections

end

end Swtrust
