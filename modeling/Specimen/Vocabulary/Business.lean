import Specimen.Vocabulary.Basic
import Specimen.Locale

set_option autoImplicit false

/-!
# Business

## Main definitions

* `Specimen.Vocabulary.companySuffixes` — endings of company names.
* `Specimen.Vocabulary.professions` — professions.
* `Specimen.Vocabulary.mailDomains` — domains of mail providers.
-/

namespace Specimen.Vocabulary

/-- The English list of endings of company names. -/
def companySuffixesEnUS : Array String := items [
  "Inc,and Sons,LLC,Group"]

/-- The Portuguese list of endings of company names. -/
def companySuffixesPtBR : Array String := items [
  "e Filhos,e Associados,Ltda.,S.A."]

/-- Endings of company names, by locale. -/
def companySuffixes : Locale → Array String
  | .enUS => companySuffixesEnUS
  | .ptBR => companySuffixesPtBR
  | .zhCN => companySuffixesEnUS

/-- Professions. -/
def professions : Array String := items [
  "teacher,actor,musician,philosopher,writer,doctor,accountant,agriculturist,architect,economist",
  "engineer,interpreter,attorney at law,advocate,librarian,statistician,human resources",
  "firefighter,judge,police officer,astronomer,biologist,chemist,physicist,programmer",
  "web developer,designer,nurse,chef,pilot,driver,gardener,plumber,carpenter,electrician,editor",
  "journalist,analyst,barista,baker,broker,cashier,coach,counselor,dentist,farmer,geologist",
  "jeweller,lawyer,model,notary,optician,painter,pharmacist,scientist,surgeon,waiter,welder",
  "writer,software engineer,zoologist,vet,pilot,treasurer"]

/-- The English list of domains of mail providers. -/
def mailDomainsEnUS : Array String := items [
  "gmail.com,yahoo.com,hotmail.com"]

/-- The Portuguese list of domains of mail providers. -/
def mailDomainsPtBR : Array String := items [
  "bol.com.br,gmail.com.br,hotmail.com.br,ig.com.br,outlook.com.br,terra.com.br,uol.com.br",
  "yahoo.com.br"]

/-- Domains of mail providers, by locale. -/
def mailDomains : Locale → Array String
  | .enUS => mailDomainsEnUS
  | .ptBR => mailDomainsPtBR
  | .zhCN => mailDomainsEnUS

end Specimen.Vocabulary
