/-
**The layout of the two forms.**

The arguments of a transaction denote numbers and byte strings, whichever way they are spelled.  The
signing form is a list of nine byte strings: the six fields, the chain id, and two empty strings.
The signed form has the same six, followed by the components of the signature.  Each number is
written as its minimal bytes, so that zero is the empty string.

Main definitions:

* `PlainTx.Arguments.Denotes` — the body and the chain that some arguments denote.

Main results:

* `PlainTx.Transaction.denotes_of_create` — a transaction has the body that its arguments denote;
* `PlainTx.Transaction.decode_of_write` — what is written is read as a list of byte strings;
* `PlainTx.Transaction.forms_layout` — **the layout of the two forms**.
-/

import PlainTx.Proofs.Creation
import PlainTx.Proofs.Denotation
import PlainTx.Proofs.RoundTrip
import PlainTx.Proofs.Signing

set_option relaxedAutoImplicit false
set_option autoImplicit false

namespace PlainTx

/-! ### What arguments denote -/

/-- The body and the chain that some arguments denote. -/
structure Arguments.Denotes (a : Arguments) (body : Payload.Body) (chain : Nat) : Prop where
  nonce : a.common.nonce.Denotes body.nonce
  gasPrice : a.common.gasPrice.Denotes body.gasPrice
  gas : a.common.gas.Denotes body.gas
  recipient : a.recipient.Spells body.recipient
  length_recipient : body.recipient.length = 20
  value : a.value.Denotes body.value
  data : a.input.Spells body.data
  chainId : a.common.chainId.Denotes chain

/-- The common fields of a value are what its parts are read as. -/
theorem CommonFields.read_eq_ok_iff [Stack] {x : CommonValues} {c : CommonFields} :
    read x = .ok c ↔
      Quantity.readOptional "nonce" x.nonce = .ok c.nonce ∧
      Quantity.readOptional "gas_price" x.gasPrice = .ok c.gasPrice ∧
      Quantity.readOptional "gas" x.gas = .ok c.gas ∧
      Quantity.readOptional "chain_id" x.chainId = .ok c.chainId := by
  simp only [read, Result.bind_eq_ok, Result.pure_eq_ok]
  constructor
  · rintro ⟨_, hnonce, _, hgasPrice, _, hgas, _, hchainId, h⟩
    cases h
    exact ⟨hnonce, hgasPrice, hgas, hchainId⟩
  · rintro ⟨hnonce, hgasPrice, hgas, hchainId⟩
    exact ⟨_, hnonce, _, hgasPrice, _, hgas, _, hchainId, rfl⟩

namespace Transaction

section

variable [Stack] {setting : Option String} {a : Arguments} {t : Transaction} {sig : Signature}

/-- **A transaction has the body that its arguments denote**, and their chain, if the common fields
are given. -/
theorem denotes_of_create (h : create setting a = .ok t) (hnonce : a.common.nonce ≠ .none)
    (hgasPrice : a.common.gasPrice ≠ .none) (hgas : a.common.gas ≠ .none)
    (hchainId : a.common.chainId ≠ .none) :
    ∃ body chain, a.Denotes body chain ∧ t.body = .ok body ∧
      t.common.chainId.map Quantity.toNat = some chain := by
  obtain ⟨recipient, value, input, common, hrecipient, hvalue, hinput, hcommon, h⟩ :=
    create_eq_ok_iff.1 h
  obtain ⟨slot, rfl, _⟩ := exists_slot_of_assemble h
  obtain ⟨hreadNonce, hreadGasPrice, hreadGas, hreadChainId⟩ :=
    CommonFields.read_eq_ok_iff.1 hcommon
  obtain ⟨nonce, hnonceSome, hnonce⟩ := Quantity.denotes_of_readOptional hreadNonce hnonce
  obtain ⟨gasPrice, hgasPriceSome, hgasPrice⟩ :=
    Quantity.denotes_of_readOptional hreadGasPrice hgasPrice
  obtain ⟨gas, hgasSome, hgas⟩ := Quantity.denotes_of_readOptional hreadGas hgas
  obtain ⟨chainId, hchainIdSome, hchainId⟩ :=
    Quantity.denotes_of_readOptional hreadChainId hchainId
  refine ⟨⟨nonce.toNat, gasPrice.toNat, gas.toNat, recipient.toBytes, value.toNat, input⟩,
    chainId.toNat, ?_, ?_, ?_⟩
  · exact
      { nonce := hnonce
        gasPrice := hgasPrice
        gas := hgas
        recipient := Address.spells_of_read hrecipient
        length_recipient := recipient.length_toBytes
        value := Quantity.denotes_of_read hvalue
        data := CallData.spells_of_read hinput
        chainId := hchainId }
  · refine body_eq_ok_iff.2 ⟨?_, ?_, ?_, rfl, rfl, rfl⟩
    · rw [hnonceSome]
      rfl
    · rw [hgasPriceSome]
      rfl
    · rw [hgasSome]
      rfl
  · rw [hchainIdSome]
    rfl

/-- A transaction holds the one signature that it is made with. -/
theorem signature_of_create (h : create setting a = .ok t)
    (hsig : Signature.readAll a.signatures = .ok [sig]) : t.signature? = some sig := by
  obtain ⟨_, _, _, _, _, _, _, _, h⟩ := create_eq_ok_iff.1 h
  obtain ⟨slot, rfl, hslot⟩ := exists_slot_of_assemble h
  rcases hslot with ⟨hlength, _⟩ | ⟨held, hheld, hslot⟩
  · obtain ⟨n, hn⟩ := Signature.length_of_readAll hsig
    cases hlength.symm.trans hn
  · cases hsig.symm.trans hheld
    exact hslot

/-! ### The strings of a form -/

/-- What is written for a payload is read as its strings. -/
theorem decode_of_write {p : Payload} {form : Bytes} (h : p.write = .ok form) :
    Rlp.decode form = .ok (.list (p.strings.map .bytes)) := by
  obtain ⟨hfits, rfl⟩ := Payload.write_eq_ok_iff.1 h
  rw [Payload.decode_encode_items hfits, Payload.items_eq_strings]

/-- **The layout of the two forms**: nine byte strings each, of which the first six are the fields
of the transaction, every number in its minimal bytes. -/
theorem forms_layout {v r s : Value} (h : create setting a = .ok t)
    (hnonce : a.common.nonce ≠ .none) (hgasPrice : a.common.gasPrice ≠ .none)
    (hgas : a.common.gas ≠ .none) (hchainId : a.common.chainId ≠ .none)
    (hsig : Signature.readAll a.signatures = .ok [sig])
    (hcomponents : Signature.ofComponents v r s = .ok sig) (hsigning : t.SigningFits)
    (hsigned : t.SignedFits) :
    ∃ body chain form wire, a.Denotes body chain ∧
      (encodeForSigning t).result = .ok form ∧ (encode t).result = .ok wire ∧
      Rlp.decode form = .ok (.list (
        [.ofNat body.nonce, .ofNat body.gasPrice, .ofNat body.gas, body.recipient,
          .ofNat body.value, body.data, .ofNat chain, [], []].map .bytes)) ∧
      Rlp.decode wire = .ok (.list (
        [.ofNat body.nonce, .ofNat body.gasPrice, .ofNat body.gas, body.recipient,
          .ofNat body.value, body.data, sig.v, sig.r, sig.s].map .bytes)) ∧
      t.signature? = some sig ∧ sig.Minimal ∧
      v.Denotes sig.v.toNat ∧ r.Denotes sig.r.toNat ∧ s.Denotes sig.s.toNat := by
  obtain ⟨body, chain, hdenotes, hbody, hchain⟩ :=
    denotes_of_create h hnonce hgasPrice hgas hchainId
  have hheld := signature_of_create h hsig
  obtain ⟨hminimal, hv, hr, hs⟩ := Signature.denotes_of_ofComponents hcomponents
  have hcomplete : t.common.Complete := exists_body_iff.1 ⟨body, hbody⟩
  obtain ⟨body', form, hbody', hform, hsigningForm⟩ := exists_signingForm hcomplete hchain hsigning
  cases hbody.symm.trans hbody'
  obtain ⟨body', hbody', hfits⟩ := exists_signedPayload hcomplete hheld hsigned
  cases hbody.symm.trans hbody'
  have hwire := Payload.write_eq_ok_iff.2 ⟨hfits, rfl⟩
  refine ⟨body, chain, form, _, hdenotes, (encodeForSigning_observes.result t).trans hsigningForm,
    (encode_observes.result t).trans ((signedForm_of_body hbody hheld).trans hwire), ?_, ?_, hheld,
    hminimal, hv, hr, hs⟩
  · rw [decode_of_write hform, Payload.committing, Payload.strings, Payload.Body.strings,
      Bytes.ofNat_zero]
    rfl
  · rw [decode_of_write hwire, Payload.strings, Payload.Body.strings,
      Bytes.ofNat_toNat hminimal.1, Bytes.ofNat_toNat hminimal.2.1,
      Bytes.ofNat_toNat hminimal.2.2]
    rfl

/-! ### Arguments in uncommon spellings -/

/-- The arguments of `oddlySpelled`: texts with either marker or none, with zeros in front and in
either case, integers, and bytes. -/
def oddArguments : Arguments where
  recipient := .text "0XAAAAAAAAAAAAAAAAAAAA00000000000000000000"
  value := .text "0X"
  input := .bytes (List.replicate 56 0x80)
  common := ⟨.text "0x00A", .text "0XA0A", .int 0, .text "A"⟩
  signatures := .list [.tuple [.int 0x25, .bytes [0x00, 0x80], .text "0x00"]]
  policy := some .reject

theorem ofComponents_oddSignature :
    Signature.ofComponents (.int 0x25) (.bytes [0x00, 0x80]) (.text "0x00") = .ok oddSignature := by
  have hv : Value.minimalBytes (.int 0x25) = .ok [0x25] := by
    have h := Bytes.ofNat_toNat (b := [0x25]) (by decide)
    exact (Value.minimalBytes_ofNat 0x25).trans (congrArg Except.ok h)
  rw [Signature.ofComponents, Signature.component, hv]
  rfl

/-- The triple of components is taken for the signature that they make. -/
theorem readAll_oddArguments :
    Signature.readAll oddArguments.signatures = .ok [oddSignature] := by
  have hread : Signature.readAll oddArguments.signatures =
      (Signature.ofComponents (.int 0x25) (.bytes [0x00, 0x80]) (.text "0x00")).map ([·]) := rfl
  rw [hread, ofComponents_oddSignature]
  rfl

theorem create_oddArguments : create none oddArguments = .ok oddlySpelled := by
  have hgas : Quantity.readOptional "gas" (.int 0) = .ok oddlySpelled.common.gas := by
    have hdigits : Hex.digitsOf 0 = [Hex.lastDigit 0] := by
      rw [Hex.digitsOf]
      rfl
    exact congrArg (fun ds => Except.ok (some (Quantity.mk .lower ds))) hdigits
  have hcommon : CommonFields.read oddArguments.common = .ok oddlySpelled.common :=
    CommonFields.read_eq_ok_iff.2 ⟨rfl, rfl, hgas, rfl⟩
  refine create_eq_ok_iff.2 ⟨_, _, _, _, rfl, rfl, rfl, hcommon, ?_⟩
  exact (withSignatures_eq_ok_iff (t := ⟨_, _, _, _, .forTransaction .reject⟩) rfl).2
    (.inr ⟨oddSignature, readAll_oddArguments, rfl⟩)

end

theorem signingFits_oddlySpelled : oddlySpelled.SigningFits := by
  have hchain : oddlySpelled.common.chainId.map Quantity.toNat = some 10 := rfl
  exact signingFits_of_ordinary body_oddlySpelled ordinary_oddBody hchain (by decide)

open scoped Stack.Usual

theorem forms_layout_oddArguments :
    create none oddArguments = .ok oddlySpelled ∧
    Signature.readAll oddArguments.signatures = .ok [oddSignature] ∧
    oddlySpelled.SigningFits ∧ oddlySpelled.SignedFits ∧
    ∃ body chain form wire, oddArguments.Denotes body chain ∧
      (encodeForSigning oddlySpelled).result = .ok form ∧ (encode oddlySpelled).result = .ok wire ∧
      Rlp.decode form = .ok (.list (
        [.ofNat body.nonce, .ofNat body.gasPrice, .ofNat body.gas, body.recipient,
          .ofNat body.value, body.data, .ofNat chain, [], []].map .bytes)) ∧
      Rlp.decode wire = .ok (.list (
        [.ofNat body.nonce, .ofNat body.gasPrice, .ofNat body.gas, body.recipient,
          .ofNat body.value, body.data, [0x25], [0x80], []].map .bytes)) := by
  obtain ⟨body, chain, form, wire, hdenotes, hform, hwire, hread, hreadWire, _⟩ :=
    forms_layout create_oddArguments (by simp [oddArguments]) (by simp [oddArguments])
      (by simp [oddArguments]) (by simp [oddArguments]) readAll_oddArguments
      ofComponents_oddSignature signingFits_oddlySpelled signedFits_oddlySpelled
  exact ⟨create_oddArguments, readAll_oddArguments, signingFits_oddlySpelled,
    signedFits_oddlySpelled, body, chain, form, wire, hdenotes, hform, hwire, hread, hreadWire⟩

end Transaction

end PlainTx
