import Specimen.Vocabulary.Basic
import Specimen.Locale

set_option autoImplicit false

/-!
# Places

## Main definitions

* `Specimen.Vocabulary.cityPrefixes` — words in front of city names.
* `Specimen.Vocabulary.citySuffixes` — endings of city names.
* `Specimen.Vocabulary.provinces` — states and provinces.
* `Specimen.Vocabulary.streetSuffixes` — words for streets.
-/

namespace Specimen.Vocabulary

/-- Words in front of city names. -/
def cityPrefixes : Array String := items [
  "North,East,West,South,New,Lake,Port"]

/-- Endings of city names. -/
def citySuffixes : Array String := items [
  "town,ton,land,ville,berg,burgh,borough,bury,view,port,mouth,stad,furt,chester,mouth,fort",
  "haven,side,shire"]

/-- The English list of states and provinces. -/
def provincesEnUS : Array String := items [
  "Alabama,Alaska,Arizona,Arkansas,California,Colorado,Connecticut,Delaware,Florida,Georgia",
  "Hawaii,Idaho,Illinois,Indiana,Iowa,Kansas,Kentucky,Louisiana,Maine,Maryland,Massachusetts",
  "Michigan,Minnesota,Mississippi,Missouri,Montana,Nebraska,Nevada,New Hampshire,New Jersey",
  "New Mexico,New York,North Carolina,North Dakota,Ohio,Oklahoma,Oregon,Pennsylvania",
  "Rhode Island,South Carolina,South Dakota,Tennessee,Texas,Utah,Vermont,Virginia,Washington",
  "West Virginia,Wisconsin,Wyoming"]

/-- The Portuguese list of states and provinces. -/
def provincesPtBR : Array String := items [
  "Acre,Alagoas,Amapá,Amazonas,Bahia,Ceará,Distrito Federal,Espírito Santo,Goiás,Maranhão",
  "Mato Grosso,Mato Grosso do Sul,Minas Gerais,Pará,Paraíba,Paraná,Pernambuco,Piauí",
  "Rio de Janeiro,Rio Grande do Norte,Rio Grande do Sul,Rondônia,Roraima,Santa Catarina",
  "São Paulo,Sergipe,Tocantins"]

/-- States and provinces, by locale. -/
def provinces : Locale → Array String
  | .enUS => provincesEnUS
  | .ptBR => provincesPtBR
  | .zhCN => provincesEnUS

/-- The English list of words for streets. -/
def streetSuffixesEnUS : Array String := items [
  "Alley,Avenue,Branch,Bridge,Brook,Brooks,Burg,Burgs,Bypass,Camp,Canyon,Cape,Causeway,Center",
  "Centers,Circle,Circles,Cliff,Cliffs,Club,Common,Corner,Corners,Course,Court,Courts,Cove,Coves",
  "Creek,Crescent,Crest,Crossing,Crossroad,Curve,Dale,Dam,Divide,Drive,Drive,Drives,Estate",
  "Estates,Expressway,Extension,Extensions,Fall,Falls,Ferry,Field,Fields,Flat,Flats,Ford,Fords",
  "Forest,Forge,Forges,Fork,Forks,Fort,Freeway,Garden,Gardens,Gateway,Glen,Glens,Green,Greens",
  "Grove,Groves,Harbor,Harbors,Haven,Heights,Highway,Hill,Hills,Hollow,Inlet,Inlet,Island,Island",
  "Islands,Islands,Isle,Isle,Junction,Junctions,Key,Keys,Knoll,Knolls,Lake,Lakes,Land,Landing",
  "Lane,Light,Lights,Loaf,Lock,Locks,Locks,Lodge,Lodge,Loop,Mall,Manor,Manors,Meadow,Meadows",
  "Mews,Mill,Mills,Mission,Mission,Motorway,Mount,Mountain,Mountain,Mountains,Mountains,Neck",
  "Orchard,Oval,Overpass,Park,Parks,Parkway,Parkways,Pass,Passage,Path,Pike,Pine,Pines,Place",
  "Plain,Plains,Plains,Plaza,Plaza,Point,Points,Port,Port,Ports,Ports,Prairie,Prairie,Radial",
  "Ramp,Ranch,Rapid,Rapids,Rest,Ridge,Ridges,River,Road,Road,Roads,Roads,Route,Row,Rue,Run,Shoal",
  "Shoals,Shore,Shores,Skyway,Spring,Springs,Springs,Spur,Spurs,Square,Square,Squares,Squares",
  "Station,Station,Stravenue,Stravenue,Stream,Stream,Street,Street,Streets,Summit,Summit,Terrace",
  "Throughway,Trace,Track,Trafficway,Trail,Trail,Tunnel,Tunnel,Turnpike,Turnpike,Underpass,Union",
  "Unions,Valley,Valleys,Via,Viaduct,View,Views,Village,Village,Villages,Ville,Vista,Vista,Walk",
  "Walks,Wall,Way,Ways,Well,Wells"]

/-- The Portuguese list of words for streets. -/
def streetSuffixesPtBR : Array String := items [
  "Av.,Avenida,R.,Rua,Travessa,Largo"]

/-- Words for streets, by locale. -/
def streetSuffixes : Locale → Array String
  | .enUS => streetSuffixesEnUS
  | .ptBR => streetSuffixesPtBR
  | .zhCN => streetSuffixesEnUS

end Specimen.Vocabulary
