import Rirekisho.Storage.Path

namespace Rirekisho

/-- A row of a list: a year, a month and what happened then. -/
structure Entry where
  year : Option String
  month : Option Nat
  value : String
  deriving Repr, DecidableEq

/-- The texts of a record. -/
inductive TextField where
  | date | nameKana | name | birthDay | gender | cellPhone | email
  | addressKana | address | addressZip | tel | fax
  | addressKana2 | address2 | addressZip2 | tel2 | fax2
  | degree | degreeYear | degreeAffiliation | thesisTitle
  | teaching | affiliatedSociety | notices | commutingTime | dependents | spouse
  | supportingSpouse | hobby | motivation | request
  deriving Repr, DecidableEq

namespace TextField

/-- Every text of a record. -/
def all : List TextField :=
  [.date, .nameKana, .name, .birthDay, .gender, .cellPhone, .email,
    .addressKana, .address, .addressZip, .tel, .fax,
    .addressKana2, .address2, .addressZip2, .tel2, .fax2,
    .degree, .degreeYear, .degreeAffiliation, .thesisTitle,
    .teaching, .affiliatedSociety, .notices, .commutingTime, .dependents, .spouse,
    .supportingSpouse, .hobby, .motivation, .request]

/-- The name of a text in the data file. -/
def label : TextField → String
  | .date => "date"
  | .nameKana => "name_kana"
  | .name => "name"
  | .birthDay => "birth_day"
  | .gender => "gender"
  | .cellPhone => "cell_phone"
  | .email => "email"
  | .addressKana => "address_kana"
  | .address => "address"
  | .addressZip => "address_zip"
  | .tel => "tel"
  | .fax => "fax"
  | .addressKana2 => "address_kana2"
  | .address2 => "address2"
  | .addressZip2 => "address_zip2"
  | .tel2 => "tel2"
  | .fax2 => "fax2"
  | .degree => "degree"
  | .degreeYear => "degree_year"
  | .degreeAffiliation => "degree_affiliation"
  | .thesisTitle => "thesis_title"
  | .teaching => "teaching"
  | .affiliatedSociety => "affiliated_society"
  | .notices => "notices"
  | .commutingTime => "commuting_time"
  | .dependents => "dependents"
  | .spouse => "spouse"
  | .supportingSpouse => "supporting_spouse"
  | .hobby => "hobby"
  | .motivation => "motivation"
  | .request => "request"

/-- The text with the given name. -/
def ofLabel? (s : String) : Option TextField := all.find? (·.label == s)

end TextField

/-- The lists of a record. -/
inductive ListField where
  | education
  | experience
  | licences
  | awards
  deriving Repr, DecidableEq

namespace ListField

/-- Every list of a record. -/
def all : List ListField := [.education, .experience, .licences, .awards]

/-- The name of a list in the data file. -/
def label : ListField → String
  | .education => "education"
  | .experience => "experience"
  | .licences => "licences"
  | .awards => "awards"

/-- The list with the given name. -/
def ofLabel? (s : String) : Option ListField := all.find? (·.label == s)

end ListField

/-- All that is known of a person. -/
structure Record where
  text : TextField → String
  photo : Path
  entries : ListField → List Entry

end Rirekisho
