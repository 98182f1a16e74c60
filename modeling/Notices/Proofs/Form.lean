import Notices.Proofs.EncodedName
import Notices.Proofs.PhoneNumber

/-!
# Forms

A form is written as one text.  What has a meaning in that text is not
left in a name or a value, so that the form can be read again, whatever
its names and values hold.

* `Url.readForm?` reads a form, and only one whose fields are all well formed.
* `Url.decodeFormText_formEncode` says that a name or a value is read as it was
  written.
* `Url.readForm?_formText` says that a form is.
* `text_messages_are_read_back` says what is read of the request for a text
  message.
-/

namespace Notices

namespace Url

/-! ## Reading a form -/

/-- Reads a field of a form: a name and a value with one equals sign between
them. -/
def readField? (s : List Char) : Option (String × String) :=
  match Text.parts '=' s with
  | [name, value] =>
      some (String.ofList (decodeFormText name),
        String.ofList (decodeFormText value))
  | _ => none

/-- Reads a form, with an ampersand between the fields. -/
def readForm? (s : List Char) : Option (List (String × String)) :=
  (Text.parts '&' s).mapM readField?

/-! ## Bytes -/

/-- A hexadecimal digit in upper case. -/
def upperHex (d : Nat) : Char := d.digitChar.toUpper

/-- A digit is read with its value, and it is a letter or a digit. -/
theorem hexDigit?_upperHex {d : Nat} (h : d < 16) :
    hexDigit? (upperHex d) = some d ∧ isUnreserved (upperHex d) = true := by
  have hall : ∀ d < 16, hexDigit? (upperHex d) = some d ∧
      isUnreserved (upperHex d) = true := by decide
  exact hall d h

/-- A byte is a percent sign and its two digits. -/
theorem percentByte_eq (b : UInt8) :
    percentByte b =
      ['%', upperHex (b.toNat / 16), upperHex (b.toNat % 16)] := by
  have hbyte : b.toNat < 256 := b.toNat_lt
  have htwo : Text.hexText 2 b.toNat =
      [(b.toNat / 16).digitChar, (b.toNat % 16).digitChar] := by
    by_cases hsmall : b.toNat < 16
    · have hzero : b.toNat / 16 = 0 := Nat.div_eq_of_lt hsmall
      simp [Text.hexText, Nat.toDigits_of_lt_base hsmall, hzero,
        Nat.mod_eq_of_lt hsmall]
    · have htens : b.toNat / 16 < 16 := by omega
      simp [Text.hexText,
        Nat.toDigits_of_base_le (b := 16) (by decide) (Nat.le_of_not_lt hsmall),
        Nat.toDigits_of_lt_base htens]
  simp [percentByte, htwo, upperHex]

/-- A byte is read as it was written. -/
theorem percentDecode_percentByte (b : UInt8) (rest : List Char) :
    percentDecode (percentByte b ++ rest) = b :: percentDecode rest := by
  have hbyte : b.toNat < 256 := b.toNat_lt
  have hhigh := (hexDigit?_upperHex (d := b.toNat / 16) (by omega)).1
  have hlow := (hexDigit?_upperHex (d := b.toNat % 16) (by omega)).1
  have hvalue : b.toNat / 16 * 16 + b.toNat % 16 = b.toNat :=
    Nat.div_add_mod' ..
  rw [percentByte_eq, List.cons_append, List.cons_append, List.cons_append,
    List.nil_append, percentDecode]
  simp [hhigh, hlow, hvalue]

/-- Bytes are read as they were written. -/
theorem percentDecode_percentBytes (bytes : List UInt8) (rest : List Char) :
    percentDecode (bytes.flatMap percentByte ++ rest) = bytes ++
      percentDecode rest := by
  induction bytes with
  | nil => rfl
  | cons b bytes ih =>
      rw [List.flatMap_cons, List.append_assoc, percentDecode_percentByte, ih]
      rfl

/-- A character that is no percent sign is read as itself. -/
theorem percentDecode_cons {c : Char} (h : c ≠ '%') (rest : List Char) :
    percentDecode (c :: rest) = String.utf8EncodeChar c ++
      percentDecode rest := by
  rw [percentDecode]
  rintro a b rest' heq
  exact absurd heq h

/-- Bytes are written with percent signs and characters that a form holds as
they are. -/
theorem mem_percentBytes {bytes : List UInt8} {c : Char}
    (h : c ∈ bytes.flatMap percentByte) :
    isUnreserved c = true ∨ c = '%' := by
  obtain ⟨b, -, hbyte⟩ := List.mem_flatMap.mp h
  have hlt : b.toNat < 256 := b.toNat_lt
  rw [percentByte_eq] at hbyte
  simp only [List.mem_cons, List.not_mem_nil, or_false] at hbyte
  rcases hbyte with rfl | rfl | rfl
  · exact Or.inr rfl
  · exact Or.inl (hexDigit?_upperHex (by omega)).2
  · exact Or.inl (hexDigit?_upperHex (by omega)).2

/-! ## Names and values -/

/-- A character that a form holds as it is is none that a form does not. -/
theorem ne_of_isUnreserved {c d : Char} (hc : isUnreserved c = true)
    (hd : isUnreserved d = false) : c ≠ d := by
  rintro rfl
  rw [hc] at hd
  cases hd

/-- A name or a value is written with characters that a form holds as they are,
pluses and percent signs. -/
theorem mem_formEncode {s : List Char} {c : Char} (h : c ∈ formEncode s) :
    isUnreserved c = true ∨ c = '+' ∨ c = '%' := by
  obtain ⟨d, -, hmem⟩ := List.mem_flatMap.mp h
  unfold formChar at hmem
  split at hmem
  · next hplain =>
    obtain rfl := List.mem_singleton.mp hmem
    exact Or.inl hplain
  · split at hmem
    · exact Or.inr (Or.inl (List.mem_singleton.mp hmem))
    · exact (mem_percentBytes hmem).imp_right Or.inr

/-- No ampersand is left in a name or a value. -/
theorem ampersand_notMem_formEncode (s : List Char) : '&' ∉ formEncode s := by
  intro h
  have hchar := mem_formEncode h
  revert hchar
  decide

/-- No equals sign is left in a name or a value. -/
theorem equals_notMem_formEncode (s : List Char) : '=' ∉ formEncode s := by
  intro h
  have hchar := mem_formEncode h
  revert hchar
  decide

/-- A plus in a form is a space. -/
def spaceOfPlus (c : Char) : Char := if c == '+' then ' ' else c

/-- Any other character is itself. -/
theorem spaceOfPlus_of_ne {c : Char} (h : c ≠ '+') : spaceOfPlus c = c :=
  if_neg (by simpa using h)

/-- No plus stands among bytes. -/
theorem map_spaceOfPlus_percentBytes (bytes : List UInt8) :
    (bytes.flatMap percentByte).map spaceOfPlus =
      bytes.flatMap percentByte := by
  have hsame : ∀ c ∈ bytes.flatMap percentByte, spaceOfPlus c = id c := by
    intro c hc
    rcases mem_percentBytes hc with hplain | rfl
    · exact spaceOfPlus_of_ne (ne_of_isUnreserved hplain (by decide))
    · rfl
  rw [List.map_congr_left hsame, List.map_id]

/-- A character is read as its bytes. -/
theorem percentDecode_formChar (c : Char) (rest : List Char) :
    percentDecode ((formChar c).map spaceOfPlus ++ rest) =
      String.utf8EncodeChar c ++ percentDecode rest := by
  unfold formChar
  split
  · next hplain =>
    rw [List.map_singleton,
      spaceOfPlus_of_ne (ne_of_isUnreserved hplain (by decide))]
    exact percentDecode_cons (ne_of_isUnreserved hplain (by decide)) rest
  · split
    · next hspace =>
      obtain rfl := eq_of_beq hspace
      exact percentDecode_cons (by decide) rest
    · rw [percentChar, map_spaceOfPlus_percentBytes, percentDecode_percentBytes]

/-- A name or a value is read as it was written. -/
theorem decodeFormText_formEncode (s : List Char) :
    decodeFormText (formEncode s) = s := by
  have hbytes : percentDecode ((formEncode s).map spaceOfPlus) =
      Text.utf8 s := by
    induction s with
    | nil => rfl
    | cons c s ih =>
        rw [formEncode, List.flatMap_cons, List.map_append,
          percentDecode_formChar]
        exact congrArg (String.utf8EncodeChar c ++ ·) ih
  show Text.readUtf8 (percentDecode ((formEncode s).map spaceOfPlus)) = s
  rw [hbytes, Text.readUtf8_utf8]

/-! ## Fields -/

/-- A field is read as it was written. -/
theorem readField?_formEncode (name value : String) :
    readField? (formEncode name.toList ++ '=' :: formEncode value.toList) =
      some (name, value) := by
  have hparts : Text.parts '='
      (formEncode name.toList ++ '=' :: formEncode value.toList) =
      [formEncode name.toList, formEncode value.toList] := by
    rw [Text.parts_append_cons (equals_notMem_formEncode _),
      Text.parts_of_notMem (equals_notMem_formEncode _)]
  rw [readField?, hparts]
  simp only [decodeFormText_formEncode, String.ofList_toList]

/-- No ampersand is left in a field. -/
theorem ampersand_notMem_field (name value : List Char) :
    '&' ∉ formEncode name ++ '=' :: formEncode value := by
  intro h
  rcases List.mem_append.mp h with hname | hvalue
  · exact ampersand_notMem_formEncode name hname
  · rcases List.mem_cons.mp hvalue with heq | hvalue
    · cases heq
    · exact ampersand_notMem_formEncode value hvalue

/-- A form that has a field is read as it was written, whatever its
names and values hold. -/
theorem readForm?_formText {fields : List (String × String)}
    (hne : fields ≠ []) :
    readForm? (formText fields) = some fields := by
  induction fields with
  | nil => exact absurd rfl hne
  | cons field rest ih =>
      obtain ⟨name, value⟩ := field
      have hfield := ampersand_notMem_field name.toList value.toList
      cases rest with
      | nil =>
          simp [formText, readForm?, Text.parts_of_notMem hfield,
            readField?_formEncode]
      | cons next rest =>
          have hrest := ih (by simp)
          unfold readForm? at hrest ⊢
          rw [formText, Text.parts_append_cons hfield, List.mapM_cons,
            readField?_formEncode, hrest]
          · rfl
          · exact nofun

end Url

/-- **The request for a text message is read back.**  Suppose that an account
is configured and that a destination has ten digits or more.  Then the
destination has a number and the account a sender.  A request is made for a
message exactly if the address of the account can be read, and whatever the
text of the message holds, the form of the request is read as the number, the
sender and the text, in this order. -/
theorem text_messages_are_read_back {a : Sms.Account}
    (hconfigured : a.isConfigured = true) {destination : String}
    (hdigits : 10 ≤ (Phone.digits destination.toList).length) :
    ∃ number sender, Phone.normalize? destination.toList = some number ∧
      a.number = some sender ∧
      ∀ (reply : Sms.Request → Sms.Reply) (body : String),
        let made := (a.send reply destination body).request
        (made.isSome = true ↔
          ∃ address, Url.Address.parse a.endpoint = .ok address) ∧
        ∀ request, made = some request →
          Url.readForm? request.content.toList =
            some [("To", String.ofList number), ("From", sender),
              ("Body", body)] := by
  obtain ⟨sender, hsender, -⟩ :=
    (Sms.Account.isConfigured_iff.mp hconfigured).number
  have hnumber := Phone.normalize?_of_le hdigits
  refine ⟨_, sender, hnumber, hsender, ?_⟩
  intro reply body made
  have hposts {request : Sms.Request}
      (hmade : made = some request) : a.Posts destination body request :=
    (a.fate_send reply destination body).posts hmade
  refine ⟨⟨?_, ?_⟩, ?_⟩
  · intro hsome
    obtain ⟨request, hmade⟩ := Option.isSome_iff_exists.mp hsome
    obtain ⟨-, number, address, -, haddress, -⟩ := hposts hmade
    exact ⟨address, haddress⟩
  · rintro ⟨address, haddress⟩
    have hmade : made = some (a.requestAt address _ body) :=
      congrArg Sms.Attempted.request
        (Sms.Account.send_of_parse hconfigured hnumber haddress)
    rw [hmade]
    rfl
  · intro request hmade
    obtain ⟨-, number, address, hsame, -, rfl⟩ := hposts hmade
    obtain rfl := Option.some.inj (hnumber.symm.trans hsame)
    rw [Sms.Request.content, String.toList_ofList,
      Url.readForm?_formText (by simp [Sms.Account.requestAt])]
    simp [Sms.Account.requestAt, hsender]

/-- A text that holds the marks of a form and more is read back. -/
theorem text_with_the_marks_of_a_form :
    let body := "50% off = 2+2 & more\ncaf\u00e9"
    World.shop.sms.isConfigured = true ∧
      10 ≤ (Phone.digits "(555) 123-4567".toList).length ∧
      ∃ request,
        (World.shop.sms.send (World.shop.smsProvider 0) "(555) 123-4567"
          body).request = some request ∧
        Url.readForm? request.content.toList =
          some [("To", "+15551234567"), ("From", "+15550000000"),
            ("Body", body)] := by
  intro body
  have hconfigured : World.shop.sms.isConfigured = true := by decide
  have hdigits : 10 ≤ (Phone.digits "(555) 123-4567".toList).length := by
    decide +kernel
  have hnumber : Phone.normalize? "(555) 123-4567".toList =
      some "+15551234567".toList := by decide +kernel
  have hmade :
      (World.shop.sms.send (World.shop.smsProvider 0) "(555) 123-4567"
        body).request.isSome = true := by
    decide +kernel
  obtain ⟨number, sender, hsame, hsender, hread⟩ :=
    text_messages_are_read_back hconfigured hdigits
  obtain rfl := Option.some.inj (hnumber.symm.trans hsame)
  obtain rfl : "+15550000000" = sender := Option.some.inj hsender
  obtain ⟨request, hrequest⟩ := Option.isSome_iff_exists.mp hmade
  exact ⟨hconfigured, hdigits, request, hrequest,
    (hread _ body).2 request hrequest⟩

end Notices
