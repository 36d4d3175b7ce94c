import Specimen.Vocabulary.Basic
import Specimen.Locale

set_option autoImplicit false

/-!
# Last names

## Main definitions

* `Specimen.Vocabulary.lastNames` — last names.
-/

namespace Specimen.Vocabulary

/-- The English list of last names. -/
def lastNamesEnUS : Array String := items [
  "Abbott,Abernathy,Abshire,Adams,Altenwerth,Anderson,Ankunding,Armstrong,Auer,Aufderhar",
  "Bahringer,Bailey,Balistreri,Barrows,Bartell,Bartoletti,Barton,Bashirian,Batz,Bauch,Baumbach",
  "Bayer,Beahan,Beatty,Bechtelar,Becker,Bednar,Beer,Beier,Berge,Bergnaum,Bergstrom,Bernhard",
  "Bernier,Bins,Blanda,Blick,Block,Bode,Boehm,Bogan,Bogisich,Borer,Bosco,Botsford,Boyer,Boyle",
  "Bradtke,Brakus,Braun,Breitenberg,Brekke,Brown,Bruen,Buckridge,Carroll,Carter,Cartwright",
  "Casper,Cassin,Champlin,Christiansen,Cole,Collier,Collins,Conn,Connelly,Conroy,Considine",
  "Corkery,Cormier,Corwin,Cremin,Crist,Crona,Cronin,Crooks,Cruickshank,Cummerata,Cummings,Dach",
  "D'Amore,Daniel,Dare,Daugherty,Davis,Deckow,Denesik,Dibbert,Dickens,Dicki,Dickinson,Dietrich",
  "Donnelly,Dooley,Douglas,Doyle,DuBuque,Durgan,Ebert,Effertz,Eichmann,Emard,Emmerich,Erdman",
  "Ernser,Fadel,Fahey,Farrell,Fay,Feeney,Feest,Feil,Ferry,Fisher,Flatley,Frami,Franecki,Friesen",
  "Fritsch,Funk,Gaylord,Gerhold,Gerlach,Gibson,Gislason,Gleason,Gleichner,Glover,Goldner,Goodwin",
  "Gorczany,Gottlieb,Goyette,Grady,Graham,Grant,Green,Greenfelder,Greenholt,Grimes,Gulgowski",
  "Gusikowski,Gutkowski,Gutmann,Haag,Hackett,Hagenes,Hahn,Haley,Halvorson,Hamill,Hammes,Hand",
  "Hane,Hansen,Harber,Harris,Hartmann,Harvey,Hauck,Hayes,Heaney,Heathcote,Hegmann,Heidenreich",
  "Heller,Herman,Hermann,Hermiston,Herzog,Hessel,Hettinger,Hickle,Hilll,Hills,Hilpert,Hintz",
  "Hirthe,Hodkiewicz,Hoeger,Homenick,Hoppe,Howe,Howell,Hudson,Huel,Huels,Hyatt,Jacobi,Jacobs",
  "Jacobson,Jakubowski,Jaskolski,Jast,Jenkins,Jerde,Johns,Johnson,Johnston,Jones,Kassulke",
  "Kautzer,Keebler,Keeling,Kemmer,Kerluke,Kertzmann,Kessler,Kiehn,Kihn,Kilback,King,Kirlin,Klein",
  "Kling,Klocko,Koch,Koelpin,Koepp,Kohler,Konopelski,Koss,Kovacek,Kozey,Krajcik,Kreiger,Kris",
  "Kshlerin,Kub,Kuhic,Kuhlman,Kuhn,Kulas,Kunde,Kunze,Kuphal,Kutch,Kuvalis,Labadie,Lakin,Lang",
  "Langosh,Langworth,Larkin,Larson,Leannon,Lebsack,Ledner,Leffler,Legros,Lehner,Lemke,Lesch",
  "Leuschke,Lind,Lindgren,Littel,Little,Lockman,Lowe,Lubowitz,Lueilwitz,Luettgen,Lynch",
  "Macejkovic,MacGyver,Maggio,Mann,Mante,Marks,Marquardt,Marvin,Mayer,Mayert,McClure,McCullough",
  "McDermott,McGlynn,McKenzie,McLaughlin,Medhurst,Mertz,Metz,Miller,Mills,Mitchell,Moen,Mohr",
  "Monahan,Moore,Morar,Morissette,Mosciski,Mraz,Mueller,Muller,Murazik,Murphy,Murray,Nader",
  "Nicolas,Nienow,Nikolaus,Nitzsche,Nolan,Oberbrunner,O'Connell,O'Conner,O'Hara,O'Keefe,O'Kon",
  "Okuneva,Olson,Ondricka,O'Reilly,Orn,Ortiz,Osinski,Pacocha,Padberg,Pagac,Parisian,Parker",
  "Paucek,Pfannerstill,Pfeffer,Pollich,Pouros,Powlowski,Predovic,Price,Prohaska,Prosacco,Purdy",
  "Quigley,Quitzon,Rath,Ratke,Rau,Raynor,Reichel,Reichert,Reilly,Reinger,Rempel,Renner,Reynolds",
  "Rice,Rippin,Ritchie,Robel,Roberts,Rodriguez,Rogahn,Rohan,Rolfson,Romaguera,Roob,Rosenbaum",
  "Rowe,Ruecker,Runolfsdottir,Runolfsson,Runte,Russel,Rutherford,Ryan,Sanford,Satterfield,Sauer",
  "Sawayn,Schaden,Schaefer,Schamberger,Schiller,Schimmel,Schinner,Schmeler,Schmidt,Schmitt",
  "Schneider,Schoen,Schowalter,Schroeder,Schulist,Schultz,Schumm,Schuppe,Schuster,Senger",
  "Shanahan,Shields,Simonis,Sipes,Skiles,Smith,Smitham,Spencer,Spinka,Sporer,Stamm,Stanton,Stark",
  "Stehr,Steuber,Stiedemann,Stokes,Stoltenberg,Stracke,Streich,Stroman,Strosin,Swaniawski,Swift",
  "Terry,Thiel,Thompson,Tillman,Torp,Torphy,Towne,Toy,Trantow,Tremblay,Treutel,Tromp,Turcotte",
  "Turner,Ullrich,Upton,Vandervort,Veum,Volkman,Von,VonRueden,Waelchi,Walker,Walsh,Walter,Ward",
  "Waters,Watsica,Weber,Wehner,Weimann,Weissnat,Welch,West,White,Wiegand,Wilderman,Wilkinson",
  "Will,Williamson,Willms,Windler,Wintheiser,Wisoky,Wisozk,Witting,Wiza,Wolf,Wolff,Wuckert",
  "Wunsch,Wyman,Yost,Yundt,Zboncak,Zemlak,Ziemann,Zieme,Zulauf"]

/-- The Portuguese list of last names. -/
def lastNamesPtBR : Array String := items [
  "Abreu,Aguiar,Alcantara,Alves,Amaral,Aragão,Aranda,Arruda,Ávila,Assunção,Azevedo,Balestero",
  "Barreto,Barros,Batista,Beltrão,Benez,Benites,Bezerra,Bittencourt,Bonilha,Branco,Brito,Burgos",
  "Caldeira,Camacho,Campos,Carmona,Carrara,Carvalho,Casanova,Cervantes,Chaves,Colaço,Cordeiro",
  "Corona,Correia,Cortês,Cruz,D\"ávila,Delatorre,Delgado,Delvalle,Deverso,Dias,Dominato",
  "Domingues,Duarte,Escobar,Espinoza,Esteves,Estrada,Faria,Faro,Feliciano,Ferminiano,Fernandes",
  "Ferraz,Ferreira,Ferreira,Fidalgo,Flores,Fonseca,Fontes,Franco,Furtado,Galhardo,Galindo,Galvão",
  "Garcia,Gil,Godói,Gomes,Gonçalves,Grego,Guerra,Gusmão,Jimenes,Leal,Leon,Lira,Lourenço,Lovato",
  "Lozano,Lutero,Madeira,Maia,Maldonado,Marin,Marinho,Marques,Martines,Marés,Mascarenhas,Matias",
  "Matos,Medina,Meireles,Mendes,Mendonça,Molina,Montenegro,Neves,Oliveira,Ortega,Ortiz,Pacheco",
  "Padilha,Padrão,Paes,Paz,Pedrosa,Pena,Pereira,Perez,Pontes,Prado,Queirós,Queirós,Quintana",
  "Quintana,Ramires,Ramos,Rangel,Reis,Rezende,Rico,Rios,Rivera,Rocha,Rodrigues,Romero,Roque,Rosa",
  "Saito,Salas,Salazar,Sales,Salgado,Sanches,Sandoval,Santacruz,Santana,Santiago,Santos,Saraiva",
  "Sepúlveda,Serna,Serra,Serrano,Soares,Solano,Soto,Souza,Tamoio,Teles,Toledo,Torres,Uchoa,Urias",
  "Valdez,Vale,Valente,Valentin,Valência,Vasques,Vega,Velasques,Verdara,Verdugo,Vieira,Vila",
  "Zamana,Zambrano,Zaragoça,da Cruz,da Rosa,da Silva,das Dores,das Neves,de Aguiar,de Arruda",
  "de Freitas,de Oliveira,de Souza"]

/-- The Chinese list of last names. -/
def lastNamesZhCN : Array String := items [
  "王,李,张,刘,陈,杨,黄,赵,吴,周,徐,孙,马,朱,胡,郭,何,高,林,郑,谢,罗,梁,宋,唐,许,韩,冯,邓,曹,彭,曾,萧,田,董,袁,潘,于,蒋,蔡,余,杜,叶,程,苏,魏,吕",
  "丁,任,沈,姚,卢,姜,崔,钟,谭,陆,汪,范,金,石,廖,贾,夏,韦,付,方,白,邹,孟,熊,秦,邱,江,尹,薛,闫,段,雷,侯,龙,史,陶,黎,贺,顾,毛,郝,龚,邵,万,钱,严,覃",
  "武,戴,莫,孔,向,汤,欧阳"]

/-- Last names, by locale. -/
def lastNames : Locale → Array String
  | .enUS => lastNamesEnUS
  | .ptBR => lastNamesPtBR
  | .zhCN => lastNamesZhCN

end Specimen.Vocabulary
