import Recordsmith.Sample.Enumerations
import Recordsmith.Sample.Tag
import Recordsmith.Translate.Catalog

/-!
# `Recordsmith.Sample.Domains`: the sample catalog

Declarations that between them use every kind of property in every shape:
numbers, texts, dates and addresses, alone, optional and in lists; boxes;
enumerations; nested types, also a type that holds itself and one with a
translator made by hand; fields that are skipped; and names that differ
between a type and its record.
-/

set_option autoImplicit false

namespace Recordsmith.Sample

/-- The text of a declaration, with options in front. -/
def declarationWith (options name : String) (fields : List String) : String :=
  options ++ "pub struct " ++ name ++ " \x7b " ++ ", ".intercalate fields ++ " \x7d"

/-- The text of a declaration. -/
def declaration (name : String) (fields : List String) : String :=
  declarationWith "" name fields

/-! ### Texts, numbers and dates -/

/-- An identity and nothing else. -/
def bare : String :=
  declaration "Bare" ["pub id: Identity"]

/-- Every type of numbers. -/
def numbers : String :=
  declaration "Numbers" [
    "pub id: Identity", "pub a8: i8", "pub a16: i16", "pub a32: i32", "pub a64: i64",
    "pub a128: i128", "pub asz: isize", "pub u8_: u8", "pub u16_: u16", "pub u32_: u32",
    "pub u64_: u64", "pub u128_: u128", "pub usz: usize", "pub f32_: f32", "pub f64_: f64",
    "pub flag: bool"]

/-- Every type of numbers, optional. -/
def optNumbers : String :=
  declaration "OptNumbers" [
    "pub id: Identity", "pub a8: Option<i8>", "pub a16: Option<i16>", "pub a32: Option<i32>",
    "pub a64: Option<i64>", "pub a128: Option<i128>", "pub asz: Option<isize>",
    "pub u8_: Option<u8>", "pub u16_: Option<u16>", "pub u32_: Option<u32>",
    "pub u64_: Option<u64>", "pub u128_: Option<u128>", "pub usz: Option<usize>",
    "pub f32_: Option<f32>", "pub f64_: Option<f64>", "pub flag: Option<bool>",
    "pub text: Option<String>"]

/-- Lists of values. -/
def lists : String :=
  declaration "Lists" [
    "pub id: Identity", "pub longs: Vec<i64>", "pub floats: Vec<f32>",
    "pub bytes: Option<Vec<u8>>", "pub flags: Vec<bool>", "pub texts: Vec<String>",
    "pub otexts: Option<Vec<String>>", "pub huge: Vec<u128>", "pub days: Vec<NaiveDate>"]

/-- Dates, plain and boxed. -/
def dates : String :=
  declaration "Dates" [
    "pub id: Identity", "pub utc: DateTime<Utc>", "pub local: DateTime<Local>",
    "pub fixed: DateTime<FixedOffset>", "pub naive: NaiveDateTime", "pub day: NaiveDate",
    "pub system: SystemTime", "pub outc: Option<DateTime<Utc>>", "pub oday: Option<NaiveDate>",
    "#[dao(boxed)] pub bfixed: DateTime<FixedOffset>",
    "#[dao(boxed)] pub bnaive: Option<NaiveDateTime>", "#[dao(boxed)] pub bsys: SystemTime",
    "pub list: Vec<DateTime<FixedOffset>>"]

/-- Types without a zero value. -/
def others : String :=
  declaration "Others" [
    "pub id: Identity", "pub letter: char", "pub pair: (i32, String)", "pub arr: [u8; 3]",
    "pub nothing: ()", "pub deep: Option<Option<u8>>", "pub grid: Vec<Vec<u8>>",
    "pub holes: Vec<Option<u8>>", "pub parent: Option<Identity>", "pub links: Vec<Identity>",
    "pub opair: Option<(i32, String)>", "pub ochar: Option<char>"]

/-! ### Boxes, enumerations and addresses -/

/-- Boxes, and enumerations kept as numbers. -/
def counter : String :=
  declaration "Counter" [
    "pub id: Identity", "#[dao(boxed)] pub hits: u32", "#[dao(boxed)] pub label: String",
    "#[dao(boxed)] pub open: bool", "#[dao(boxed)] pub ratio: f64",
    "#[dao(boxed)] pub touched: DateTime<Utc>", "#[dao(int_enum)] pub binding: Binding",
    "#[dao(int_enum, boxed)] pub level: Level", "#[dao(boxed)] pub ohits: Option<u32>",
    "#[dao(boxed)] pub olabel: Option<String>", "#[dao(boxed)] pub oday: Option<NaiveDate>",
    "#[dao(int_enum, boxed)] pub ograde: Option<Grade>"]

/-- Enumerations in every shape. -/
def enums : String :=
  declaration "Enums" [
    "pub id: Identity", "#[dao(string_enum)] pub mood: Mood",
    "#[dao(string_enum)] pub flag: Flag", "#[dao(int_enum)] pub binding: Binding",
    "#[dao(int_enum)] pub grade: Grade", "#[dao(string_enum)] pub ogenre: Option<Genre>",
    "#[dao(string_enum)] pub omood: Option<Mood>", "#[dao(int_enum)] pub ograde: Option<Grade>",
    "#[dao(int_enum)] pub olevel: Option<Level>", "#[dao(string_enum)] pub vflags: Vec<Flag>",
    "#[dao(int_enum)] pub vgrades: Vec<Grade>",
    "#[dao(string_enum)] pub ovmoods: Option<Vec<Mood>>",
    "#[dao(int_enum)] pub ovlevels: Option<Vec<Level>>"]

/-- Addresses in every shape. -/
def mirrors : String :=
  declaration "Mirror" [
    "pub id: Identity", "pub home: Url", "pub alt: Option<Url>", "pub backups: Vec<Url>",
    "pub spares: Option<Vec<Url>>", "pub uri: Uri", "pub ouri: Option<Uri>",
    "pub uris: Vec<Uri>"]

/-! ### Nested types -/

/-- A type that others hold. -/
def address : String :=
  declaration "Address" ["pub id: Identity", "pub city: String", "pub zip: Option<u32>"]

/-- A type with a bit of everything. -/
def book : String :=
  declaration "Book" [
    "pub id: Identity", "pub title: String", "pub pages: u32", "pub rating: Option<u8>",
    "#[dao(string_enum)] pub genre: Genre", "#[dao(string_enum)] pub shelves: Vec<Genre>",
    "pub tags: Vec<String>", "#[dao(nested)] pub address: Option<Address>",
    "#[dao(skip)] pub summary: String"]

/-- A nested type in every shape. -/
def shipment : String :=
  declaration "Shipment" [
    "pub id: Identity", "#[dao(nested)] pub destination: Address",
    "#[dao(nested)] pub returns: Option<Address>", "#[dao(nested)] pub stops: Vec<Address>",
    "#[dao(nested)] pub extras: Option<Vec<Address>>"]

/-- A type that holds itself. -/
def node : String :=
  declaration "Node" [
    "pub id: Identity", "pub label: String", "#[dao(nested)] pub children: Vec<Node>"]

/-- The innermost of three. -/
def inner : String :=
  declaration "Inner" [
    "pub id: Identity", "#[dao(string_enum)] pub genre: Genre", "#[dao(skip)] pub hint: u8"]

/-- The middle one of three. -/
def middle : String :=
  declaration "Middle" [
    "pub id: Identity", "pub note: String", "#[dao(nested)] pub inner: Inner"]

/-- The outermost of three. -/
def outer : String :=
  declaration "Outer" [
    "pub id: Identity", "#[dao(nested)] pub mid: Middle",
    "#[dao(nested)] pub omid: Option<Middle>"]

/-! ### Names and skipped fields -/

/-- Names given one by one, and the rest in camel case. -/
def volume : String :=
  declarationWith
    "#[dao(record = \"StoredBook\", translator = \"BookMapper\", alias = \"Library\",
      rename_all = \"camelCase\")] "
    "Volume" [
    "pub book_id: Identity", "pub page_count: u32",
    "#[dao(model_name = \"heading\")] pub title: String",
    "#[dao(model_name = \"kind\")] pub r#type: Option<String>",
    "#[dao(string_enum)] pub main_genre: Genre", "#[dao(skip)] pub last_seen_at: u64"]

/-- Names brought to snake case. -/
def shouty : String :=
  declarationWith "#[dao(rename_all = \"snake_case\")] " "Shouty" [
    "pub TheKey: Identity", "pub HTTPCode: u16", "pub pageCount: Option<u32>",
    "pub v2Label: String"]

/-- Skipped fields around those that are kept. -/
def skipper : String :=
  declaration "Skipper" [
    "#[dao(skip)] pub cache: Vec<u8>", "pub title: String", "#[dao(skip)] pub count: u64",
    "pub key: Identity", "#[dao(skip)] pub note: Option<String>"]

/-! ### The translator made by hand -/

/-- The values of tags. -/
def tag : String :=
  declaration "Tag" ["id: Identity", "label: String", "weight: u8"]

/-- The records of tags. -/
def tagRecord : String :=
  declaration "TagRecord" ["id: Identity", "label: String", "weight: u8", "writes: u32"]

/-- Tags in every shape. -/
def parcel : String :=
  declaration "Parcel" [
    "pub id: Identity", "pub first: String", "#[dao(nested)] pub tag: Tag",
    "#[dao(nested)] pub spare: Option<Tag>", "#[dao(nested)] pub tags: Vec<Tag>",
    "pub last: String"]

/-- The declarations of types whose translators are derived. -/
def declarations : List String := [
  address, book, counter, mirrors, shipment, numbers, optNumbers, lists, enums, dates, others,
  volume, shouty, bare, skipper, node, inner, middle, outer, parcel]

/-- All enumerations and domain types. -/
def catalog : Catalog where
  enumerations := enumerations
  domains := declarations.filterMap DomainType.derived? ++
    (DomainType.custom? tag tagRecord Tag.translator).toList

end Recordsmith.Sample
