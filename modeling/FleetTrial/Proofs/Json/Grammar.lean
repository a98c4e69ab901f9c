import FleetTrial.Json.Scan

/-!
# The grammar of JSON texts

What a JSON text may look like, apart from any reader: blanks stand between tokens wherever they
like, a string spells its characters with or without escapes, and a value nests to any depth. A
string that nobody asked for need not pair its surrogates up, and a number may have any size.

Arrays and objects are laid out from lists of items and entries, each with the blanks around it.
-/

namespace FleetTrial.Json

/-- Blanks between two tokens. -/
structure Gap where
  text : List Char
  blank : ∀ c ∈ text, isGap c = true

/-- No blanks. -/
def Gap.none : Gap := ⟨[], nofun⟩

/-- An item of an array: the text of a value, and the blanks around it. -/
structure Item where
  before : Gap
  value : List Char
  after : Gap

/-- The text of an item. -/
def Item.text (i : Item) : List Char := i.before.text ++ (i.value ++ i.after.text)

/-- An entry of an object: a name as it is spelt between its quotes, the text of a value, and the
blanks around both. -/
structure Entry where
  beforeName : Gap
  spelt : List Char
  afterName : Gap
  beforeValue : Gap
  value : List Char
  afterValue : Gap

/-- The text of an entry. -/
def Entry.text (e : Entry) : List Char :=
  e.beforeName.text ++ '"' :: (e.spelt ++ '"' :: (e.afterName.text ++ ':' ::
    (e.beforeValue.text ++ (e.value ++ e.afterValue.text))))

/-- Parts of a text behind others, with a comma in front of each. -/
def further (parts : List (List Char)) : List Char := parts.flatMap (',' :: ·)

/-- Parts of a text with commas between them, or blanks if there are none. -/
def body (blank : Gap) : List (List Char) → List Char
  | [] => blank.text
  | first :: more => first ++ further more

/-- The text of an array. -/
def arrayText (blank : Gap) (items : List Item) : List Char :=
  '[' :: (body blank (items.map Item.text) ++ [']'])

/-- The text of an object. -/
def objectText (blank : Gap) (entries : List Entry) : List Char :=
  '\x7b' :: (body blank (entries.map Entry.text) ++ ['\x7d'])

/-- Whether four hexadecimal digits write a code unit. -/
inductive WritesUnit : List Char → Nat → Prop
  | digits {a b c d : Char} {i j k l : Nat} (ha : Text.hexDigit? a = some i)
    (hb : Text.hexDigit? b = some j) (hc : Text.hexDigit? c = some k)
    (hd : Text.hexDigit? d = some l) :
    WritesUnit [a, b, c, d] (((i * 16 + j) * 16 + k) * 16 + l)

/-- Whether a character stands for itself in a string. -/
structure IsPlain (c : Char) : Prop where
  not_quote : c ≠ '"'
  not_backslash : c ≠ '\\'
  not_control : ¬ c.toNat < 0x20

/-- Whether a text spells these characters between the quotes of a string. -/
inductive Spells : List Char → List Char → Prop
  | nil : Spells [] []
  | plain {c : Char} {text s : List Char} (hplain : IsPlain c) (hmore : Spells text s) :
    Spells (c :: text) (c :: s)
  | short {letter c : Char} {text s : List Char} (hshort : shortEscape? letter = some c)
    (hmore : Spells text s) : Spells ('\\' :: letter :: text) (c :: s)
  | single {digits text s : List Char} {n : Nat} (hunit : WritesUnit digits n)
    (hhigh : isHighSurrogate n = false) (hlow : isLowSurrogate n = false)
    (hmore : Spells text s) : Spells ('\\' :: 'u' :: (digits ++ text)) (Char.ofNat n :: s)
  | pair {digits digits' text s : List Char} {high low : Nat} (hunit : WritesUnit digits high)
    (hhigh : isHighSurrogate high = true) (hunit' : WritesUnit digits' low)
    (hlow : isLowSurrogate low = true) (hmore : Spells text s) :
    Spells ('\\' :: 'u' :: (digits ++ '\\' :: 'u' :: (digits' ++ text)))
      (Char.ofNat (0x10000 + (high - 0xD800) * 0x400 + (low - 0xDC00)) :: s)

/-- Whether a text may stand between the quotes of a string. -/
inductive IsStringBody : List Char → Prop
  | nil : IsStringBody []
  | plain {c : Char} {text : List Char} (hplain : IsPlain c) (hmore : IsStringBody text) :
    IsStringBody (c :: text)
  | short {letter : Char} {text : List Char} (hshort : (shortEscape? letter).isSome = true)
    (hmore : IsStringBody text) : IsStringBody ('\\' :: letter :: text)
  | unit {digits text : List Char} {n : Nat} (hunit : WritesUnit digits n)
    (hmore : IsStringBody text) : IsStringBody ('\\' :: 'u' :: (digits ++ text))

/-- Whether a text is one or more digits. -/
def AreDigits (text : List Char) : Prop := text ≠ [] ∧ ∀ c ∈ text, c.isDigit = true

/-- Whether a text is a whole number without a sign: zeros stand in front of no other digit. -/
structure IsWhole (text : List Char) : Prop where
  digits : AreDigits text
  no_zeros : ∀ c more, text ≠ '0' :: c :: more

/-- Whether a text is the fraction of a number, or nothing. -/
inductive IsFraction : List Char → Prop
  | none : IsFraction []
  | point {digits : List Char} (hdigits : AreDigits digits) : IsFraction ('.' :: digits)

/-- Whether a text is the exponent of a number, or nothing. -/
inductive IsExponent : List Char → Prop
  | none : IsExponent []
  | letter {c : Char} {sign digits : List Char} (hletter : c = 'e' ∨ c = 'E')
    (hsign : sign = [] ∨ sign = ['+'] ∨ sign = ['-']) (hdigits : AreDigits digits) :
    IsExponent (c :: (sign ++ digits))

/-- Whether a text is a number without a sign. -/
inductive IsUnsigned : List Char → Prop
  | parts {whole fraction exponent : List Char} (hwhole : IsWhole whole)
    (hfraction : IsFraction fraction) (hexponent : IsExponent exponent) :
    IsUnsigned (whole ++ (fraction ++ exponent))

/-- Whether a text is a JSON value. -/
inductive IsJson : List Char → Prop
  | null : IsJson ['n', 'u', 'l', 'l']
  | true : IsJson ['t', 'r', 'u', 'e']
  | false : IsJson ['f', 'a', 'l', 's', 'e']
  | positive {text : List Char} (hnumber : IsUnsigned text) : IsJson text
  | negative {text : List Char} (hnumber : IsUnsigned text) : IsJson ('-' :: text)
  | string {text : List Char} (hstring : IsStringBody text) : IsJson ('"' :: (text ++ ['"']))
  | array (blank : Gap) (items : List Item) (hitems : ∀ i ∈ items, IsJson i.value) :
    IsJson (arrayText blank items)
  | object (blank : Gap) (entries : List Entry) (hnames : ∀ e ∈ entries, IsStringBody e.spelt)
    (hvalues : ∀ e ∈ entries, IsJson e.value) : IsJson (objectText blank entries)

/-- What spells characters may stand between the quotes of a string. -/
theorem Spells.isStringBody {text s : List Char} (hspells : Spells text s) : IsStringBody text := by
  induction hspells with
  | nil => exact .nil
  | plain hplain _ ih => exact .plain hplain ih
  | short hshort _ ih => exact .short (Option.isSome_of_eq_some hshort) ih
  | single hunit _ _ _ ih => exact .unit hunit ih
  | pair hunit _ hunit' _ _ ih => exact .unit hunit (.unit hunit' ih)

end FleetTrial.Json
