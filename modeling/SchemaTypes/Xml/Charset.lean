/-!
# Character sets of one byte

Names of character sets and what their upper 128 bytes stand for. The lower 128 bytes are ASCII in
every set listed with a table, unless the set lacks a character. Names are in small letters with one
underscore between their parts.
-/

namespace SchemaTypes.Xml.Charset

/-- Names that stand for one thing: its own ones, and others, in which dots may stand for
underscores. -/
structure Names where
  own : List String
  others : List String

/-- Whether a name is one of them. -/
def Names.contains (names : Names) (name : String) : Bool :=
  let underscored := String.ofList (name.toList.map fun c => if c = '.' then '_' else c)
  names.own.contains name || names.others.contains name || names.others.contains underscored

/-- A character set of one byte: its names, the characters of ASCII it lacks, and rows of four
hexadecimal digits for each byte from 128 on, `FFFD` where the byte stands for nothing. -/
structure Table where
  names : Names
  absent : List Char
  upper : List String

/-- The character sets that agree with ASCII. -/
def tables : List Table := [
  ⟨⟨["ascii", "iso2022_jp", "iso2022_jp_1", "iso2022_jp_2", "iso2022_jp_2004", "iso2022_jp_3",
     "iso2022_jp_ext", "utf_8", "utf_8_sig"],
    ["ansi_x3.4_1968", "ansi_x3.4_1986", "ansi_x3_4_1968", "cp367", "cp65001", "csascii",
     "csiso2022jp", "ibm367", "iso2022jp", "iso2022jp_1", "iso2022jp_2", "iso2022jp_2004",
     "iso2022jp_3", "iso2022jp_ext", "iso646_us", "iso_2022_jp", "iso_2022_jp_1", "iso_2022_jp_2",
     "iso_2022_jp_2004", "iso_2022_jp_3", "iso_2022_jp_ext", "iso_646.irv_1991", "iso_ir_6", "u8",
     "us", "us_ascii", "utf", "utf8", "utf8_ucs2", "utf8_ucs4"]⟩, [],
    ["FFFDFFFDFFFDFFFDFFFDFFFDFFFDFFFDFFFDFFFDFFFDFFFDFFFDFFFDFFFDFFFDFFFDFFFDFFFDFFFDFFFDFFFD",
     "FFFDFFFDFFFDFFFDFFFDFFFDFFFDFFFDFFFDFFFDFFFDFFFDFFFDFFFDFFFDFFFDFFFDFFFDFFFDFFFDFFFDFFFD",
     "FFFDFFFDFFFDFFFDFFFDFFFDFFFDFFFDFFFDFFFDFFFDFFFDFFFDFFFDFFFDFFFDFFFDFFFDFFFDFFFDFFFDFFFD",
     "FFFDFFFDFFFDFFFDFFFDFFFDFFFDFFFDFFFDFFFDFFFDFFFDFFFDFFFDFFFDFFFDFFFDFFFDFFFDFFFDFFFDFFFD",
     "FFFDFFFDFFFDFFFDFFFDFFFDFFFDFFFDFFFDFFFDFFFDFFFDFFFDFFFDFFFDFFFDFFFDFFFDFFFDFFFDFFFDFFFD",
     "FFFDFFFDFFFDFFFDFFFDFFFDFFFDFFFDFFFDFFFDFFFDFFFDFFFDFFFDFFFDFFFDFFFDFFFD"]⟩,
  ⟨⟨["charmap", "latin_1", "raw_unicode_escape", "unicode_escape"],
    ["cp819", "csisolatin1", "ibm819", "iso8859", "iso8859_1", "iso_8859_1", "iso_8859_1_1987",
     "iso_ir_100", "l1", "latin", "latin1"]⟩, [],
    ["0080008100820083008400850086008700880089008A008B008C008D008E008F009000910092009300940095",
     "0096009700980099009A009B009C009D009E009F00A000A100A200A300A400A500A600A700A800A900AA00AB",
     "00AC00AD00AE00AF00B000B100B200B300B400B500B600B700B800B900BA00BB00BC00BD00BE00BF00C000C1",
     "00C200C300C400C500C600C700C800C900CA00CB00CC00CD00CE00CF00D000D100D200D300D400D500D600D7",
     "00D800D900DA00DB00DC00DD00DE00DF00E000E100E200E300E400E500E600E700E800E900EA00EB00EC00ED",
     "00EE00EF00F000F100F200F300F400F500F600F700F800F900FA00FB00FC00FD00FE00FF"]⟩,
  ⟨⟨["cp1006"], []⟩, [],
    ["0080008100820083008400850086008700880089008A008B008C008D008E008F009000910092009300940095",
     "0096009700980099009A009B009C009D009E009F00A006F006F106F206F306F406F506F606F706F806F9060C",
     "061B00AD061FFE81FE8DFE8EFE8EFE8FFE91FB56FB58FE93FE95FE97FB66FB68FE99FE9BFE9DFE9FFB7AFB7C",
     "FEA1FEA3FEA5FEA7FEA9FB84FEABFEADFB8CFEAFFB8AFEB1FEB3FEB5FEB7FEB9FEBBFEBDFEBFFEC1FEC5FEC9",
     "FECAFECBFECCFECDFECEFECFFED0FED1FED3FED5FED7FED9FEDBFB92FB94FEDDFEDFFEE0FEE1FEE3FB9EFEE5",
     "FEE7FE85FEEDFBA6FBA8FBA9FBAAFE80FE89FE8AFE8BFEF1FEF2FEF3FBB0FBAEFE7CFE7D"]⟩,
  ⟨⟨["cp1125"], ["cp866u", "ibm1125", "ruscii"]⟩, [],
    ["0410041104120413041404150416041704180419041A041B041C041D041E041F042004210422042304240425",
     "0426042704280429042A042B042C042D042E042F0430043104320433043404350436043704380439043A043B",
     "043C043D043E043F259125922593250225242561256225562555256325512557255D255C255B251025142534",
     "252C251C2500253C255E255F255A25542569256625602550256C25672568256425652559255825522553256B",
     "256A2518250C25882584258C259025800440044104420443044404450446044704480449044A044B044C044D",
     "044E044F040104510490049104040454040604560407045700B7221A211600A425A000A0"]⟩,
  ⟨⟨["cp1250"], ["windows_1250"]⟩, [],
    ["20ACFFFD201AFFFD201E202620202021FFFD203001602039015A0164017D0179FFFD20182019201C201D2022",
     "20132014FFFD21220161203A015B0165017E017A00A002C702D8014100A4010400A600A700A800A9015E00AB",
     "00AC00AD00AE017B00B000B102DB014200B400B500B600B700B80105015F00BB013D02DD013E017C015400C1",
     "00C2010200C40139010600C7010C00C9011800CB011A00CD00CE010E01100143014700D300D4015000D600D7",
     "0158016E00DA017000DC00DD016200DF015500E100E2010300E4013A010700E7010D00E9011900EB011B00ED",
     "00EE010F01110144014800F300F4015100F600F70159016F00FA017100FC00FD016302D9"]⟩,
  ⟨⟨["cp1251"], ["windows_1251"]⟩, [],
    ["04020403201A0453201E20262020202120AC203004092039040A040C040B040F045220182019201C201D2022",
     "20132014FFFD21220459203A045A045C045B045F00A0040E045E040800A4049000A600A7040100A9040400AB",
     "00AC00AD00AE040700B000B104060456049100B500B600B704512116045400BB045804050455045704100411",
     "04120413041404150416041704180419041A041B041C041D041E041F04200421042204230424042504260427",
     "04280429042A042B042C042D042E042F0430043104320433043404350436043704380439043A043B043C043D",
     "043E043F0440044104420443044404450446044704480449044A044B044C044D044E044F"]⟩,
  ⟨⟨["cp1252"], ["windows_1252"]⟩, [],
    ["20ACFFFD201A0192201E20262020202102C62030016020390152FFFD017DFFFDFFFD20182019201C201D2022",
     "2013201402DC21220161203A0153FFFD017E017800A000A100A200A300A400A500A600A700A800A900AA00AB",
     "00AC00AD00AE00AF00B000B100B200B300B400B500B600B700B800B900BA00BB00BC00BD00BE00BF00C000C1",
     "00C200C300C400C500C600C700C800C900CA00CB00CC00CD00CE00CF00D000D100D200D300D400D500D600D7",
     "00D800D900DA00DB00DC00DD00DE00DF00E000E100E200E300E400E500E600E700E800E900EA00EB00EC00ED",
     "00EE00EF00F000F100F200F300F400F500F600F700F800F900FA00FB00FC00FD00FE00FF"]⟩,
  ⟨⟨["cp1253"], ["windows_1253"]⟩, [],
    ["20ACFFFD201A0192201E202620202021FFFD2030FFFD2039FFFDFFFDFFFDFFFDFFFD20182019201C201D2022",
     "20132014FFFD2122FFFD203AFFFDFFFDFFFDFFFD00A00385038600A300A400A500A600A700A800A9FFFD00AB",
     "00AC00AD00AE201500B000B100B200B3038400B500B600B703880389038A00BB038C00BD038E038F03900391",
     "03920393039403950396039703980399039A039B039C039D039E039F03A003A1FFFD03A303A403A503A603A7",
     "03A803A903AA03AB03AC03AD03AE03AF03B003B103B203B303B403B503B603B703B803B903BA03BB03BC03BD",
     "03BE03BF03C003C103C203C303C403C503C603C703C803C903CA03CB03CC03CD03CEFFFD"]⟩,
  ⟨⟨["cp1254"], ["windows_1254"]⟩, [],
    ["20ACFFFD201A0192201E20262020202102C62030016020390152FFFDFFFDFFFDFFFD20182019201C201D2022",
     "2013201402DC21220161203A0153FFFDFFFD017800A000A100A200A300A400A500A600A700A800A900AA00AB",
     "00AC00AD00AE00AF00B000B100B200B300B400B500B600B700B800B900BA00BB00BC00BD00BE00BF00C000C1",
     "00C200C300C400C500C600C700C800C900CA00CB00CC00CD00CE00CF011E00D100D200D300D400D500D600D7",
     "00D800D900DA00DB00DC0130015E00DF00E000E100E200E300E400E500E600E700E800E900EA00EB00EC00ED",
     "00EE00EF011F00F100F200F300F400F500F600F700F800F900FA00FB00FC0131015F00FF"]⟩,
  ⟨⟨["cp1255"], ["windows_1255"]⟩, [],
    ["20ACFFFD201A0192201E20262020202102C62030FFFD2039FFFDFFFDFFFDFFFDFFFD20182019201C201D2022",
     "2013201402DC2122FFFD203AFFFDFFFDFFFDFFFD00A000A100A200A320AA00A500A600A700A800A900D700AB",
     "00AC00AD00AE00AF00B000B100B200B300B400B500B600B700B800B900F700BB00BC00BD00BE00BF05B005B1",
     "05B205B305B405B505B605B705B805B9FFFD05BB05BC05BD05BE05BF05C005C105C205C305F005F105F205F3",
     "05F4FFFDFFFDFFFDFFFDFFFDFFFDFFFD05D005D105D205D305D405D505D605D705D805D905DA05DB05DC05DD",
     "05DE05DF05E005E105E205E305E405E505E605E705E805E905EAFFFDFFFD200E200FFFFD"]⟩,
  ⟨⟨["cp1256"], ["windows_1256"]⟩, [],
    ["20AC067E201A0192201E20262020202102C6203006792039015206860698068806AF20182019201C201D2022",
     "2013201406A921220691203A0153200C200D06BA00A0060C00A200A300A400A500A600A700A800A906BE00AB",
     "00AC00AD00AE00AF00B000B100B200B300B400B500B600B700B800B9061B00BB00BC00BD00BE061F06C10621",
     "06220623062406250626062706280629062A062B062C062D062E062F063006310632063306340635063600D7",
     "063706380639063A064006410642064300E0064400E2064506460647064800E700E800E900EA00EB0649064A",
     "00EE00EF064B064C064D064E00F4064F065000F7065100F9065200FB00FC200E200F06D2"]⟩,
  ⟨⟨["cp1257"], ["windows_1257"]⟩, [],
    ["20ACFFFD201AFFFD201E202620202021FFFD2030FFFD2039FFFD00A802C700B8FFFD20182019201C201D2022",
     "20132014FFFD2122FFFD203AFFFD00AF02DBFFFD00A0FFFD00A200A300A4FFFD00A600A700D800A9015600AB",
     "00AC00AD00AE00C600B000B100B200B300B400B500B600B700F800B9015700BB00BC00BD00BE00E60104012E",
     "0100010600C400C501180112010C00C90179011601220136012A013B01600143014500D3014C00D500D600D7",
     "01720141015A016A00DC017B017D00DF0105012F0101010700E400E501190113010D00E9017A011701230137",
     "012B013C01610144014600F3014D00F500F600F701730142015B016B00FC017C017E02D9"]⟩,
  ⟨⟨["cp1258"], ["windows_1258"]⟩, [],
    ["20ACFFFD201A0192201E20262020202102C62030FFFD20390152FFFDFFFDFFFDFFFD20182019201C201D2022",
     "2013201402DC2122FFFD203A0153FFFDFFFD017800A000A100A200A300A400A500A600A700A800A900AA00AB",
     "00AC00AD00AE00AF00B000B100B200B300B400B500B600B700B800B900BA00BB00BC00BD00BE00BF00C000C1",
     "00C2010200C400C500C600C700C800C900CA00CB030000CD00CE00CF011000D1030900D300D401A000D600D7",
     "00D800D900DA00DB00DC01AF030300DF00E000E100E2010300E400E500E600E700E800E900EA00EB030100ED",
     "00EE00EF011100F1032300F300F401A100F600F700F800F900FA00FB00FC01B020AB00FF"]⟩,
  ⟨⟨["cp437"], ["cspc8codepage437", "ibm437"]⟩, [],
    ["00C700FC00E900E200E400E000E500E700EA00EB00E800EF00EE00EC00C400C500C900E600C600F400F600F2",
     "00FB00F900FF00D600DC00A200A300A520A7019200E100ED00F300FA00F100D100AA00BA00BF231000AC00BD",
     "00BC00A100AB00BB259125922593250225242561256225562555256325512557255D255C255B251025142534",
     "252C251C2500253C255E255F255A25542569256625602550256C25672568256425652559255825522553256B",
     "256A2518250C25882584258C2590258003B100DF039303C003A303C300B503C403A6039803A903B4221E03C6",
     "03B52229226100B1226522642320232100F7224800B0221900B7221A207F00B225A000A0"]⟩,
  ⟨⟨["cp720"], []⟩, [],
    ["0080008100E900E2008400E0008600E700EA00EB00E800EF00EE008D008E008F00900651065200F400A40640",
     "00FB00F9062106220623062400A306250626062706280629062A062B062C062D062E062F0630063106320633",
     "0634063500AB00BB259125922593250225242561256225562555256325512557255D255C255B251025142534",
     "252C251C2500253C255E255F255A25542569256625602550256C25672568256425652559255825522553256B",
     "256A2518250C25882584258C259025800636063706380639063A064100B50642064306440645064606470648",
     "0649064A2261064B064C064D064E064F0650224800B0221900B7221A207F00B225A000A0"]⟩,
  ⟨⟨["cp737"], []⟩, [],
    ["039103920393039403950396039703980399039A039B039C039D039E039F03A003A103A303A403A503A603A7",
     "03A803A903B103B203B303B403B503B603B703B803B903BA03BB03BC03BD03BE03BF03C003C103C303C203C4",
     "03C503C603C703C8259125922593250225242561256225562555256325512557255D255C255B251025142534",
     "252C251C2500253C255E255F255A25542569256625602550256C25672568256425652559255825522553256B",
     "256A2518250C25882584258C2590258003C903AC03AD03AE03CA03AF03CC03CD03CB03CE038603880389038A",
     "038C038E038F00B12265226403AA03AB00F7224800B0221900B7221A207F00B225A000A0"]⟩,
  ⟨⟨["cp775"], ["cspc775baltic", "ibm775"]⟩, [],
    ["010600FC00E9010100E4012300E501070142011301560157012B017900C400C500C900E600C6014D00F60122",
     "00A2015A015B00D600DC00F800A300D800D700A40100012A00F3017B017C017A201D00A600A900AE00AC00BD",
     "00BC014100AB00BB259125922593250225240104010C01180116256325512557255D012E0160251025142534",
     "252C251C2500253C0172016A255A25542569256625602550256C017D0105010D01190117012F01610173016B",
     "017E2518250C25882584258C2590258000D300DF014C014300F500D500B5014401360137013B013C01460112",
     "0145201900AD00B1201C00BE00B600A700F7201E00B0221900B700B900B300B225A000A0"]⟩,
  ⟨⟨["cp850"], ["cspc850multilingual", "ibm850"]⟩, [],
    ["00C700FC00E900E200E400E000E500E700EA00EB00E800EF00EE00EC00C400C500C900E600C600F400F600F2",
     "00FB00F900FF00D600DC00F800A300D800D7019200E100ED00F300FA00F100D100AA00BA00BF00AE00AC00BD",
     "00BC00A100AB00BB2591259225932502252400C100C200C000A9256325512557255D00A200A5251025142534",
     "252C251C2500253C00E300C3255A25542569256625602550256C00A400F000D000CA00CB00C8013100CD00CE",
     "00CF2518250C2588258400A600CC258000D300DF00D400D200F500D500B500FE00DE00DA00DB00D900FD00DD",
     "00AF00B400AD00B1201700BE00B600A700F700B800B000A800B700B900B300B225A000A0"]⟩,
  ⟨⟨["cp852"], ["cspcp852", "ibm852"]⟩, [],
    ["00C700FC00E900E200E4016F010700E7014200EB0150015100EE017900C4010600C90139013A00F400F6013D",
     "013E015A015B00D600DC01640165014100D7010D00E100ED00F300FA01040105017D017E0118011900AC017A",
     "010C015F00AB00BB2591259225932502252400C100C2011A015E256325512557255D017B017C251025142534",
     "252C251C2500253C01020103255A25542569256625602550256C00A401110110010E00CB010F014700CD00CE",
     "011B2518250C258825840162016E258000D300DF00D401430144014801600161015400DA0155017000FD00DD",
     "016300B400AD02DD02DB02C702D800A700F700B800B000A802D901710158015925A000A0"]⟩,
  ⟨⟨["cp855"], ["csibm855", "ibm855"]⟩, [],
    ["045204020453040304510401045404040455040504560406045704070458040804590409045A040A045B040B",
     "045C040C045E040E045F040F044E042E044A042A043004100431041104460426043404140435041504440424",
     "0433041300AB00BB259125922593250225240445042504380418256325512557255D04390419251025142534",
     "252C251C2500253C043A041A255A25542569256625602550256C00A4043B041B043C041C043D041D043E041E",
     "043F2518250C25882584041F044F2580042F044004200441042104420422044304230436041604320412044C",
     "042C211600AD044B042B0437041704480428044D042D044904290447042700A725A000A0"]⟩,
  ⟨⟨["cp856"], []⟩, [],
    ["05D005D105D205D305D405D505D605D705D805D905DA05DB05DC05DD05DE05DF05E005E105E205E305E405E5",
     "05E605E705E805E905EAFFFD00A3FFFD00D7FFFDFFFDFFFDFFFDFFFDFFFDFFFDFFFDFFFDFFFD00AE00AC00BD",
     "00BCFFFD00AB00BB25912592259325022524FFFDFFFDFFFD00A9256325512557255D00A200A5251025142534",
     "252C251C2500253CFFFDFFFD255A25542569256625602550256C00A4FFFDFFFDFFFDFFFDFFFDFFFDFFFDFFFD",
     "FFFD2518250C2588258400A6FFFD2580FFFDFFFDFFFDFFFDFFFDFFFD00B5FFFDFFFDFFFDFFFDFFFDFFFDFFFD",
     "00AF00B400AD00B1201700BE00B600A700F700B800B000A800B700B900B300B225A000A0"]⟩,
  ⟨⟨["cp857"], ["csibm857", "ibm857"]⟩, [],
    ["00C700FC00E900E200E400E000E500E700EA00EB00E800EF00EE013100C400C500C900E600C600F400F600F2",
     "00FB00F9013000D600DC00F800A300D8015E015F00E100ED00F300FA00F100D1011E011F00BF00AE00AC00BD",
     "00BC00A100AB00BB2591259225932502252400C100C200C000A9256325512557255D00A200A5251025142534",
     "252C251C2500253C00E300C3255A25542569256625602550256C00A400BA00AA00CA00CB00C8FFFD00CD00CE",
     "00CF2518250C2588258400A600CC258000D300DF00D400D200F500D500B5FFFD00D700DA00DB00D900EC00FF",
     "00AF00B400AD00B1FFFD00BE00B600A700F700B800B000A800B700B900B300B225A000A0"]⟩,
  ⟨⟨["cp858"], ["csibm858", "ibm858"]⟩, [],
    ["00C700FC00E900E200E400E000E500E700EA00EB00E800EF00EE00EC00C400C500C900E600C600F400F600F2",
     "00FB00F900FF00D600DC00F800A300D800D7019200E100ED00F300FA00F100D100AA00BA00BF00AE00AC00BD",
     "00BC00A100AB00BB2591259225932502252400C100C200C000A9256325512557255D00A200A5251025142534",
     "252C251C2500253C00E300C3255A25542569256625602550256C00A400F000D000CA00CB00C820AC00CD00CE",
     "00CF2518250C2588258400A600CC258000D300DF00D400D200F500D500B500FE00DE00DA00DB00D900FD00DD",
     "00AF00B400AD00B1201700BE00B600A700F700B800B000A800B700B900B300B225A000A0"]⟩,
  ⟨⟨["cp860"], ["csibm860", "ibm860"]⟩, [],
    ["00C700FC00E900E200E300E000C100E700EA00CA00E800CD00D400EC00C300C200C900C000C800F400F500F2",
     "00DA00F900CC00D500DC00A200A300D920A700D300E100ED00F300FA00F100D100AA00BA00BF00D200AC00BD",
     "00BC00A100AB00BB259125922593250225242561256225562555256325512557255D255C255B251025142534",
     "252C251C2500253C255E255F255A25542569256625602550256C25672568256425652559255825522553256B",
     "256A2518250C25882584258C2590258003B100DF039303C003A303C300B503C403A6039803A903B4221E03C6",
     "03B52229226100B1226522642320232100F7224800B0221900B7221A207F00B225A000A0"]⟩,
  ⟨⟨["cp861"], ["cp_is", "csibm861", "ibm861"]⟩, [],
    ["00C700FC00E900E200E400E000E500E700EA00EB00E800D000F000DE00C400C500C900E600C600F400F600FE",
     "00FB00DD00FD00D600DC00F800A300D820A7019200E100ED00F300FA00C100CD00D300DA00BF231000AC00BD",
     "00BC00A100AB00BB259125922593250225242561256225562555256325512557255D255C255B251025142534",
     "252C251C2500253C255E255F255A25542569256625602550256C25672568256425652559255825522553256B",
     "256A2518250C25882584258C2590258003B100DF039303C003A303C300B503C403A6039803A903B4221E03C6",
     "03B52229226100B1226522642320232100F7224800B0221900B7221A207F00B225A000A0"]⟩,
  ⟨⟨["cp862"], ["cspc862latinhebrew", "ibm862"]⟩, [],
    ["05D005D105D205D305D405D505D605D705D805D905DA05DB05DC05DD05DE05DF05E005E105E205E305E405E5",
     "05E605E705E805E905EA00A200A300A520A7019200E100ED00F300FA00F100D100AA00BA00BF231000AC00BD",
     "00BC00A100AB00BB259125922593250225242561256225562555256325512557255D255C255B251025142534",
     "252C251C2500253C255E255F255A25542569256625602550256C25672568256425652559255825522553256B",
     "256A2518250C25882584258C2590258003B100DF039303C003A303C300B503C403A6039803A903B4221E03C6",
     "03B52229226100B1226522642320232100F7224800B0221900B7221A207F00B225A000A0"]⟩,
  ⟨⟨["cp863"], ["csibm863", "ibm863"]⟩, [],
    ["00C700FC00E900E200C200E000B600E700EA00EB00E800EF00EE201700C000A700C900C800CA00F400CB00CF",
     "00FB00F900A400D400DC00A200A300D900DB019200A600B400F300FA00A800B800B300AF00CE231000AC00BD",
     "00BC00BE00AB00BB259125922593250225242561256225562555256325512557255D255C255B251025142534",
     "252C251C2500253C255E255F255A25542569256625602550256C25672568256425652559255825522553256B",
     "256A2518250C25882584258C2590258003B100DF039303C003A303C300B503C403A6039803A903B4221E03C6",
     "03B52229226100B1226522642320232100F7224800B0221900B7221A207F00B225A000A0"]⟩,
  ⟨⟨["cp865"], ["csibm865", "ibm865"]⟩, [],
    ["00C700FC00E900E200E400E000E500E700EA00EB00E800EF00EE00EC00C400C500C900E600C600F400F600F2",
     "00FB00F900FF00D600DC00F800A300D820A7019200E100ED00F300FA00F100D100AA00BA00BF231000AC00BD",
     "00BC00A100AB00A4259125922593250225242561256225562555256325512557255D255C255B251025142534",
     "252C251C2500253C255E255F255A25542569256625602550256C25672568256425652559255825522553256B",
     "256A2518250C25882584258C2590258003B100DF039303C003A303C300B503C403A6039803A903B4221E03C6",
     "03B52229226100B1226522642320232100F7224800B0221900B7221A207F00B225A000A0"]⟩,
  ⟨⟨["cp866"], ["csibm866", "ibm866"]⟩, [],
    ["0410041104120413041404150416041704180419041A041B041C041D041E041F042004210422042304240425",
     "0426042704280429042A042B042C042D042E042F0430043104320433043404350436043704380439043A043B",
     "043C043D043E043F259125922593250225242561256225562555256325512557255D255C255B251025142534",
     "252C251C2500253C255E255F255A25542569256625602550256C25672568256425652559255825522553256B",
     "256A2518250C25882584258C259025800440044104420443044404450446044704480449044A044B044C044D",
     "044E044F040104510404045404070457040E045E00B0221900B7221A211600A425A000A0"]⟩,
  ⟨⟨["cp869"], ["cp_gr", "csibm869", "ibm869"]⟩, [],
    ["FFFDFFFDFFFDFFFDFFFDFFFD0386FFFD00B700AC00A620182019038820150389038A03AA038CFFFDFFFD038E",
     "03AB00A9038F00B200B303AC00A303AD03AE03AF03CA039003CC03CD039103920393039403950396039700BD",
     "0398039900AB00BB25912592259325022524039A039B039C039D256325512557255D039E039F251025142534",
     "252C251C2500253C03A003A1255A25542569256625602550256C03A303A403A503A603A703A803A903B103B2",
     "03B32518250C2588258403B403B5258003B603B703B803B903BA03BB03BC03BD03BE03BF03C003C103C303C2",
     "03C4038400AD00B103C503C603C700A703C8038500B000A803C903CB03B003CE25A000A0"]⟩,
  ⟨⟨["cp874"], []⟩, [],
    ["20ACFFFDFFFDFFFDFFFD2026FFFDFFFDFFFDFFFDFFFDFFFDFFFDFFFDFFFDFFFDFFFD20182019201C201D2022",
     "20132014FFFDFFFDFFFDFFFDFFFDFFFDFFFDFFFD00A00E010E020E030E040E050E060E070E080E090E0A0E0B",
     "0E0C0E0D0E0E0E0F0E100E110E120E130E140E150E160E170E180E190E1A0E1B0E1C0E1D0E1E0E1F0E200E21",
     "0E220E230E240E250E260E270E280E290E2A0E2B0E2C0E2D0E2E0E2F0E300E310E320E330E340E350E360E37",
     "0E380E390E3AFFFDFFFDFFFDFFFD0E3F0E400E410E420E430E440E450E460E470E480E490E4A0E4B0E4C0E4D",
     "0E4E0E4F0E500E510E520E530E540E550E560E570E580E590E5A0E5BFFFDFFFDFFFDFFFD"]⟩,
  ⟨⟨["hp_roman8"], ["cp1051", "ibm1051", "r8", "roman8"]⟩, [],
    ["0080008100820083008400850086008700880089008A008B008C008D008E008F009000910092009300940095",
     "0096009700980099009A009B009C009D009E009F00A000C000C200C800CA00CB00CE00CF00B402CB02C600A8",
     "02DC00D900DB20A400AF00DD00FD00B000C700E700D100F100A100BF00A400A300A500A7019200A200E200EA",
     "00F400FB00E100E900F300FA00E000E800F200F900E400EB00F600FC00C500EE00D800C600E500ED00F800E6",
     "00C400EC00D600DC00C900EF00DF00D400C100C300E300D000F000CD00CC00D300D200D500F50160016100DA",
     "017800FF00DE00FE00B700B500B600BE201400BC00BD00AA00BA00AB25A000BB00B1FFFD"]⟩,
  ⟨⟨["hz"], ["hz_gb", "hz_gb_2312", "hzgb"]⟩, ['~'],
    ["FFFDFFFDFFFDFFFDFFFDFFFDFFFDFFFDFFFDFFFDFFFDFFFDFFFDFFFDFFFDFFFDFFFDFFFDFFFDFFFDFFFDFFFD",
     "FFFDFFFDFFFDFFFDFFFDFFFDFFFDFFFDFFFDFFFDFFFDFFFDFFFDFFFDFFFDFFFDFFFDFFFDFFFDFFFDFFFDFFFD",
     "FFFDFFFDFFFDFFFDFFFDFFFDFFFDFFFDFFFDFFFDFFFDFFFDFFFDFFFDFFFDFFFDFFFDFFFDFFFDFFFDFFFDFFFD",
     "FFFDFFFDFFFDFFFDFFFDFFFDFFFDFFFDFFFDFFFDFFFDFFFDFFFDFFFDFFFDFFFDFFFDFFFDFFFDFFFDFFFDFFFD",
     "FFFDFFFDFFFDFFFDFFFDFFFDFFFDFFFDFFFDFFFDFFFDFFFDFFFDFFFDFFFDFFFDFFFDFFFDFFFDFFFDFFFDFFFD",
     "FFFDFFFDFFFDFFFDFFFDFFFDFFFDFFFDFFFDFFFDFFFDFFFDFFFDFFFDFFFDFFFDFFFDFFFD"]⟩,
  ⟨⟨["iso8859_10"],
    ["csisolatin6", "iso_8859_10", "iso_8859_10_1992", "iso_ir_157", "l6", "latin6"]⟩, [],
    ["0080008100820083008400850086008700880089008A008B008C008D008E008F009000910092009300940095",
     "0096009700980099009A009B009C009D009E009F00A0010401120122012A0128013600A7013B011001600166",
     "017D00AD016A014A00B0010501130123012B0129013700B7013C011101610167017E2015016B014B010000C1",
     "00C200C300C400C500C6012E010C00C9011800CB011600CD00CE00CF00D00145014C00D300D400D500D60168",
     "00D8017200DA00DB00DC00DD00DE00DF010100E100E200E300E400E500E6012F010D00E9011900EB011700ED",
     "00EE00EF00F00146014D00F300F400F500F6016900F8017300FA00FB00FC00FD00FE0138"]⟩,
  ⟨⟨["iso8859_11"], ["iso_8859_11", "iso_8859_11_2001", "thai"]⟩, [],
    ["0080008100820083008400850086008700880089008A008B008C008D008E008F009000910092009300940095",
     "0096009700980099009A009B009C009D009E009F00A00E010E020E030E040E050E060E070E080E090E0A0E0B",
     "0E0C0E0D0E0E0E0F0E100E110E120E130E140E150E160E170E180E190E1A0E1B0E1C0E1D0E1E0E1F0E200E21",
     "0E220E230E240E250E260E270E280E290E2A0E2B0E2C0E2D0E2E0E2F0E300E310E320E330E340E350E360E37",
     "0E380E390E3AFFFDFFFDFFFDFFFD0E3F0E400E410E420E430E440E450E460E470E480E490E4A0E4B0E4C0E4D",
     "0E4E0E4F0E500E510E520E530E540E550E560E570E580E590E5A0E5BFFFDFFFDFFFDFFFD"]⟩,
  ⟨⟨["iso8859_13"], ["iso_8859_13", "l7", "latin7"]⟩, [],
    ["0080008100820083008400850086008700880089008A008B008C008D008E008F009000910092009300940095",
     "0096009700980099009A009B009C009D009E009F00A0201D00A200A300A4201E00A600A700D800A9015600AB",
     "00AC00AD00AE00C600B000B100B200B3201C00B500B600B700F800B9015700BB00BC00BD00BE00E60104012E",
     "0100010600C400C501180112010C00C90179011601220136012A013B01600143014500D3014C00D500D600D7",
     "01720141015A016A00DC017B017D00DF0105012F0101010700E400E501190113010D00E9017A011701230137",
     "012B013C01610144014600F3014D00F500F600F701730142015B016B00FC017C017E2019"]⟩,
  ⟨⟨["iso8859_14"],
    ["iso_8859_14", "iso_8859_14_1998", "iso_celtic", "iso_ir_199", "l8", "latin8"]⟩, [],
    ["0080008100820083008400850086008700880089008A008B008C008D008E008F009000910092009300940095",
     "0096009700980099009A009B009C009D009E009F00A01E021E0300A3010A010B1E0A00A71E8000A91E821E0B",
     "1EF200AD00AE01781E1E1E1F012001211E401E4100B61E561E811E571E831E601EF31E841E851E6100C000C1",
     "00C200C300C400C500C600C700C800C900CA00CB00CC00CD00CE00CF017400D100D200D300D400D500D61E6A",
     "00D800D900DA00DB00DC00DD017600DF00E000E100E200E300E400E500E600E700E800E900EA00EB00EC00ED",
     "00EE00EF017500F100F200F300F400F500F61E6B00F800F900FA00FB00FC00FD017700FF"]⟩,
  ⟨⟨["iso8859_15"], ["iso_8859_15", "l9", "latin9"]⟩, [],
    ["0080008100820083008400850086008700880089008A008B008C008D008E008F009000910092009300940095",
     "0096009700980099009A009B009C009D009E009F00A000A100A200A320AC00A5016000A7016100A900AA00AB",
     "00AC00AD00AE00AF00B000B100B200B3017D00B500B600B7017E00B900BA00BB01520153017800BF00C000C1",
     "00C200C300C400C500C600C700C800C900CA00CB00CC00CD00CE00CF00D000D100D200D300D400D500D600D7",
     "00D800D900DA00DB00DC00DD00DE00DF00E000E100E200E300E400E500E600E700E800E900EA00EB00EC00ED",
     "00EE00EF00F000F100F200F300F400F500F600F700F800F900FA00FB00FC00FD00FE00FF"]⟩,
  ⟨⟨["iso8859_16"], ["iso_8859_16", "iso_8859_16_2001", "iso_ir_226", "l10", "latin10"]⟩, [],
    ["0080008100820083008400850086008700880089008A008B008C008D008E008F009000910092009300940095",
     "0096009700980099009A009B009C009D009E009F00A001040105014120AC201E016000A7016100A9021800AB",
     "017900AD017A017B00B000B1010C0142017D201D00B600B7017E010D021900BB015201530178017C00C000C1",
     "00C2010200C4010600C600C700C800C900CA00CB00CC00CD00CE00CF0110014300D200D300D4015000D6015A",
     "017000D900DA00DB00DC0118021A00DF00E000E100E2010300E4010700E600E700E800E900EA00EB00EC00ED",
     "00EE00EF0111014400F200F300F4015100F6015B017100F900FA00FB00FC0119021B00FF"]⟩,
  ⟨⟨["iso8859_2"],
    ["csisolatin2", "iso_8859_2", "iso_8859_2_1987", "iso_ir_101", "l2", "latin2"]⟩, [],
    ["0080008100820083008400850086008700880089008A008B008C008D008E008F009000910092009300940095",
     "0096009700980099009A009B009C009D009E009F00A0010402D8014100A4013D015A00A700A80160015E0164",
     "017900AD017D017B00B0010502DB014200B4013E015B02C700B80161015F0165017A02DD017E017C015400C1",
     "00C2010200C40139010600C7010C00C9011800CB011A00CD00CE010E01100143014700D300D4015000D600D7",
     "0158016E00DA017000DC00DD016200DF015500E100E2010300E4013A010700E7010D00E9011900EB011B00ED",
     "00EE010F01110144014800F300F4015100F600F70159016F00FA017100FC00FD016302D9"]⟩,
  ⟨⟨["iso8859_3"],
    ["csisolatin3", "iso_8859_3", "iso_8859_3_1988", "iso_ir_109", "l3", "latin3"]⟩, [],
    ["0080008100820083008400850086008700880089008A008B008C008D008E008F009000910092009300940095",
     "0096009700980099009A009B009C009D009E009F00A0012602D800A300A4FFFD012400A700A80130015E011E",
     "013400ADFFFD017B00B0012700B200B300B400B5012500B700B80131015F011F013500BDFFFD017C00C000C1",
     "00C2FFFD00C4010A010800C700C800C900CA00CB00CC00CD00CE00CFFFFD00D100D200D300D4012000D600D7",
     "011C00D900DA00DB00DC016C015C00DF00E000E100E2FFFD00E4010B010900E700E800E900EA00EB00EC00ED",
     "00EE00EFFFFD00F100F200F300F4012100F600F7011D00F900FA00FB00FC016D015D02D9"]⟩,
  ⟨⟨["iso8859_4"],
    ["csisolatin4", "iso_8859_4", "iso_8859_4_1988", "iso_ir_110", "l4", "latin4"]⟩, [],
    ["0080008100820083008400850086008700880089008A008B008C008D008E008F009000910092009300940095",
     "0096009700980099009A009B009C009D009E009F00A001040138015600A40128013B00A700A8016001120122",
     "016600AD017D00AF00B0010502DB015700B40129013C02C700B80161011301230167014A017E014B010000C1",
     "00C200C300C400C500C6012E010C00C9011800CB011600CD00CE012A01100145014C013600D400D500D600D7",
     "00D8017200DA00DB00DC0168016A00DF010100E100E200E300E400E500E6012F010D00E9011900EB011700ED",
     "00EE012B01110146014D013700F400F500F600F700F8017300FA00FB00FC0169016B02D9"]⟩,
  ⟨⟨["iso8859_5"],
    ["csisolatincyrillic", "cyrillic", "iso_8859_5", "iso_8859_5_1988", "iso_ir_144"]⟩, [],
    ["0080008100820083008400850086008700880089008A008B008C008D008E008F009000910092009300940095",
     "0096009700980099009A009B009C009D009E009F00A0040104020403040404050406040704080409040A040B",
     "040C00AD040E040F0410041104120413041404150416041704180419041A041B041C041D041E041F04200421",
     "04220423042404250426042704280429042A042B042C042D042E042F04300431043204330434043504360437",
     "04380439043A043B043C043D043E043F0440044104420443044404450446044704480449044A044B044C044D",
     "044E044F2116045104520453045404550456045704580459045A045B045C00A7045E045F"]⟩,
  ⟨⟨["iso8859_6"],
    ["arabic", "asmo_708", "csisolatinarabic", "ecma_114", "iso_8859_6", "iso_8859_6_1987",
     "iso_ir_127"]⟩, [],
    ["0080008100820083008400850086008700880089008A008B008C008D008E008F009000910092009300940095",
     "0096009700980099009A009B009C009D009E009F00A0FFFDFFFDFFFD00A4FFFDFFFDFFFDFFFDFFFDFFFDFFFD",
     "060C00ADFFFDFFFDFFFDFFFDFFFDFFFDFFFDFFFDFFFDFFFDFFFDFFFDFFFD061BFFFDFFFDFFFD061FFFFD0621",
     "06220623062406250626062706280629062A062B062C062D062E062F06300631063206330634063506360637",
     "06380639063AFFFDFFFDFFFDFFFDFFFD0640064106420643064406450646064706480649064A064B064C064D",
     "064E064F065006510652FFFDFFFDFFFDFFFDFFFDFFFDFFFDFFFDFFFDFFFDFFFDFFFDFFFD"]⟩,
  ⟨⟨["iso8859_7"],
    ["csisolatingreek", "ecma_118", "elot_928", "greek", "greek8", "iso_8859_7", "iso_8859_7_1987",
     "iso_ir_126"]⟩, [],
    ["0080008100820083008400850086008700880089008A008B008C008D008E008F009000910092009300940095",
     "0096009700980099009A009B009C009D009E009F00A02018201900A320AC20AF00A600A700A800A9037A00AB",
     "00AC00ADFFFD201500B000B100B200B303840385038600B703880389038A00BB038C00BD038E038F03900391",
     "03920393039403950396039703980399039A039B039C039D039E039F03A003A1FFFD03A303A403A503A603A7",
     "03A803A903AA03AB03AC03AD03AE03AF03B003B103B203B303B403B503B603B703B803B903BA03BB03BC03BD",
     "03BE03BF03C003C103C203C303C403C503C603C703C803C903CA03CB03CC03CD03CEFFFD"]⟩,
  ⟨⟨["iso8859_8"],
    ["csisolatinhebrew", "hebrew", "iso_8859_8", "iso_8859_8_1988", "iso_ir_138"]⟩, [],
    ["0080008100820083008400850086008700880089008A008B008C008D008E008F009000910092009300940095",
     "0096009700980099009A009B009C009D009E009F00A0FFFD00A200A300A400A500A600A700A800A900D700AB",
     "00AC00AD00AE00AF00B000B100B200B300B400B500B600B700B800B900F700BB00BC00BD00BEFFFDFFFDFFFD",
     "FFFDFFFDFFFDFFFDFFFDFFFDFFFDFFFDFFFDFFFDFFFDFFFDFFFDFFFDFFFDFFFDFFFDFFFDFFFDFFFDFFFDFFFD",
     "FFFDFFFDFFFDFFFDFFFDFFFDFFFD201705D005D105D205D305D405D505D605D705D805D905DA05DB05DC05DD",
     "05DE05DF05E005E105E205E305E405E505E605E705E805E905EAFFFDFFFD200E200FFFFD"]⟩,
  ⟨⟨["iso8859_9"],
    ["csisolatin5", "iso_8859_9", "iso_8859_9_1989", "iso_ir_148", "l5", "latin5"]⟩, [],
    ["0080008100820083008400850086008700880089008A008B008C008D008E008F009000910092009300940095",
     "0096009700980099009A009B009C009D009E009F00A000A100A200A300A400A500A600A700A800A900AA00AB",
     "00AC00AD00AE00AF00B000B100B200B300B400B500B600B700B800B900BA00BB00BC00BD00BE00BF00C000C1",
     "00C200C300C400C500C600C700C800C900CA00CB00CC00CD00CE00CF011E00D100D200D300D400D500D600D7",
     "00D800D900DA00DB00DC0130015E00DF00E000E100E200E300E400E500E600E700E800E900EA00EB00EC00ED",
     "00EE00EF011F00F100F200F300F400F500F600F700F800F900FA00FB00FC0131015F00FF"]⟩,
  ⟨⟨["koi8_r"], ["cskoi8r"]⟩, [],
    ["25002502250C251025142518251C2524252C2534253C258025842588258C2590259125922593232025A02219",
     "221A22482264226500A0232100B000B200B700F725502551255204512553255425552556255725582559255A",
     "255B255C255D255E255F25602561040125622563256425652566256725682569256A256B256C00A9044E0430",
     "043104460434043504440433044504380439043A043B043C043D043E043F044F044004410442044304360432",
     "044C044B04370448044D04490447044A042E0410041104260414041504240413042504180419041A041B041C",
     "041D041E041F042F042004210422042304160412042C042B04170428042D04290427042A"]⟩,
  ⟨⟨["koi8_t"], []⟩, [],
    ["049B0493201A0492201E202620202021FFFD203004B3203904B204B704B6FFFD049A20182019201C201D2022",
     "20132014FFFD2122FFFD203AFFFDFFFDFFFDFFFDFFFD04EF04EE045100A404E300A600A7FFFDFFFDFFFD00AB",
     "00AC00AD00AEFFFD00B000B100B20401FFFD04E200B600B7FFFD2116FFFD00BBFFFDFFFDFFFD00A9044E0430",
     "043104460434043504440433044504380439043A043B043C043D043E043F044F044004410442044304360432",
     "044C044B04370448044D04490447044A042E0410041104260414041504240413042504180419041A041B041C",
     "041D041E041F042F042004210422042304160412042C042B04170428042D04290427042A"]⟩,
  ⟨⟨["koi8_u"], []⟩, [],
    ["25002502250C251025142518251C2524252C2534253C258025842588258C2590259125922593232025A02219",
     "221A22482264226500A0232100B000B200B700F725502551255204510454255404560457255725582559255A",
     "255B0491255D255E255F25602561040104042563040604072566256725682569256A0490256C00A9044E0430",
     "043104460434043504440433044504380439043A043B043C043D043E043F044F044004410442044304360432",
     "044C044B04370448044D04490447044A042E0410041104260414041504240413042504180419041A041B041C",
     "041D041E041F042F042004210422042304160412042C042B04170428042D04290427042A"]⟩,
  ⟨⟨["kz1048"], ["kz_1048", "rk1048", "strk1048_2002"]⟩, [],
    ["04020403201A0453201E20262020202120AC203004092039040A049A04BA040F045220182019201C201D2022",
     "20132014FFFD21220459203A045A049B04BB045F00A004B004B104D800A404E800A600A7040100A9049200AB",
     "00AC00AD00AE04AE00B000B10406045604E900B500B600B704512116049300BB04D904A204A304AF04100411",
     "04120413041404150416041704180419041A041B041C041D041E041F04200421042204230424042504260427",
     "04280429042A042B042C042D042E042F0430043104320433043404350436043704380439043A043B043C043D",
     "043E043F0440044104420443044404450446044704480449044A044B044C044D044E044F"]⟩,
  ⟨⟨["mac_croatian"], []⟩, [],
    ["00C400C500C700C900D100D600DC00E100E000E200E400E300E500E700E900E800EA00EB00ED00EC00EE00EF",
     "00F100F300F200F400F600F500FA00F900FB00FC202000B000A200A300A7202200B600DF00AE0160212200B4",
     "00A82260017D00D8221E00B122642265220600B522022211220F0161222B00AA00BA03A9017E00F800BF00A1",
     "00AC221A01922248010600AB010C202600A000C000C300D50152015301102014201C201D2018201900F725CA",
     "F8FF00A9204420AC2039203A00C600BB201300B7201A201E203000C2010700C1010D00C800CD00CE00CF00CC",
     "00D300D4011100D200DA00DB00D9013102C602DC00AF03C000CB02DA00B800CA00E602C7"]⟩,
  ⟨⟨["mac_cyrillic"], ["maccyrillic"]⟩, [],
    ["0410041104120413041404150416041704180419041A041B041C041D041E041F042004210422042304240425",
     "0426042704280429042A042B042C042D042E042F202000B0049000A300A7202200B6040600AE00A921220402",
     "0452226004030453221E00B122642265045600B504910408040404540407045704090459040A045A04580405",
     "00AC221A01922248220600AB00BB202600A0040B045B040C045C045520132014201C201D2018201900F7201E",
     "040E045E040F045F211604010451044F0430043104320433043404350436043704380439043A043B043C043D",
     "043E043F0440044104420443044404450446044704480449044A044B044C044D044E20AC"]⟩,
  ⟨⟨["mac_greek"], ["macgreek"]⟩, [],
    ["00C400B900B200C900B300D600DC038500E000E200E4038400A800E700E900E800EA00EB00A3212200EE00EF",
     "202200BD203000F400F600A620AC00F900FB00FC2020039303940398039B039E03A000DF00AE00A903A303AA",
     "00A7226000B000B7039100B12264226500A503920395039603970399039A039C03A603AB03A803A903AC039D",
     "00AC039F03A1224803A400AB00BB202600A003A503A703860388015320132015201C201D2018201900F70389",
     "038A038C038E03AD03AE03AF03CC038F03CD03B103B203C803B403B503C603B303B703B903BE03BA03BB03BC",
     "03BD03BF03C003CE03C103C303C403B803C903C203C703C503B603CA03CB039003B000AD"]⟩,
  ⟨⟨["mac_iceland"], ["maciceland"]⟩, [],
    ["00C400C500C700C900D100D600DC00E100E000E200E400E300E500E700E900E800EA00EB00ED00EC00EE00EF",
     "00F100F300F200F400F600F500FA00F900FB00FC00DD00B000A200A300A7202200B600DF00AE00A9212200B4",
     "00A8226000C600D8221E00B12264226500A500B522022211220F03C0222B00AA00BA03A900E600F800BF00A1",
     "00AC221A01922248220600AB00BB202600A000C000C300D50152015320132014201C201D2018201900F725CA",
     "00FF0178204420AC00D000F000DE00FE00FD00B7201A201E203000C200CA00C100CB00C800CD00CE00CF00CC",
     "00D300D4F8FF00D200DA00DB00D9013102C602DC00AF02D802D902DA00B802DD02DB02C7"]⟩,
  ⟨⟨["mac_latin2"], ["mac_centeuro", "maccentraleurope", "maclatin2"]⟩, [],
    ["00C40100010100C9010400D600DC00E10105010C00E4010D0106010700E90179017A010E00ED010F01120113",
     "011600F3011700F400F600F500FA011A011B00FC202000B0011800A300A7202200B600DF00AE00A921220119",
     "00A822600123012E012F012A22642265012B0136220222110142013B013C013D013E0139013A014501460143",
     "00AC221A01440147220600AB00BB202600A00148015000D50151014C20132014201C201D2018201900F725CA",
     "014D0154015501582039203A0159015601570160201A201E0161015A015B00C10164016500CD017D017E016A",
     "00D300D4016B016E00DA016F017001710172017300DD00FD0137017B0141017C012202C7"]⟩,
  ⟨⟨["mac_roman"], ["macintosh", "macroman"]⟩, [],
    ["00C400C500C700C900D100D600DC00E100E000E200E400E300E500E700E900E800EA00EB00ED00EC00EE00EF",
     "00F100F300F200F400F600F500FA00F900FB00FC202000B000A200A300A7202200B600DF00AE00A9212200B4",
     "00A8226000C600D8221E00B12264226500A500B522022211220F03C0222B00AA00BA03A900E600F800BF00A1",
     "00AC221A01922248220600AB00BB202600A000C000C300D50152015320132014201C201D2018201900F725CA",
     "00FF0178204420AC2039203AFB01FB02202100B7201A201E203000C200CA00C100CB00C800CD00CE00CF00CC",
     "00D300D4F8FF00D200DA00DB00D9013102C602DC00AF02D802D902DA00B802DD02DB02C7"]⟩,
  ⟨⟨["mac_romanian"], []⟩, [],
    ["00C400C500C700C900D100D600DC00E100E000E200E400E300E500E700E900E800EA00EB00ED00EC00EE00EF",
     "00F100F300F200F400F600F500FA00F900FB00FC202000B000A200A300A7202200B600DF00AE00A9212200B4",
     "00A8226001020218221E00B12264226500A500B522022211220F03C0222B00AA00BA03A90103021900BF00A1",
     "00AC221A01922248220600AB00BB202600A000C000C300D50152015320132014201C201D2018201900F725CA",
     "00FF0178204420AC2039203A021A021B202100B7201A201E203000C200CA00C100CB00C800CD00CE00CF00CC",
     "00D300D4F8FF00D200DA00DB00D9013102C602DC00AF02D802D902DA00B802DD02DB02C7"]⟩,
  ⟨⟨["mac_turkish"], ["macturkish"]⟩, [],
    ["00C400C500C700C900D100D600DC00E100E000E200E400E300E500E700E900E800EA00EB00ED00EC00EE00EF",
     "00F100F300F200F400F600F500FA00F900FB00FC202000B000A200A300A7202200B600DF00AE00A9212200B4",
     "00A8226000C600D8221E00B12264226500A500B522022211220F03C0222B00AA00BA03A900E600F800BF00A1",
     "00AC221A01922248220600AB00BB202600A000C000C300D50152015320132014201C201D2018201900F725CA",
     "00FF0178011E011F01300131015E015F202100B7201A201E203000C200CA00C100CB00C800CD00CE00CF00CC",
     "00D300D4F8FF00D200DA00DB00D9F8A002C602DC00AF02D802D902DA00B802DD02DB02C7"]⟩,
  ⟨⟨["palmos"], []⟩, [],
    ["20AC0081201A0192201E20262020202102C62030016020390152266626632665266020182019201C201D2022",
     "2013201402DC21220161009B0153009D009E017800A000A100A200A300A400A500A600A700A800A900AA00AB",
     "00AC00AD00AE00AF00B000B100B200B300B400B500B600B700B800B900BA00BB00BC00BD00BE00BF00C000C1",
     "00C200C300C400C500C600C700C800C900CA00CB00CC00CD00CE00CF00D000D100D200D300D400D500D600D7",
     "00D800D900DA00DB00DC00DD00DE00DF00E000E100E200E300E400E500E600E700E800E900EA00EB00EC00ED",
     "00EE00EF00F000F100F200F300F400F500F600F700F800F900FA00FB00FC00FD00FE00FF"]⟩,
  ⟨⟨["ptcp154"], ["cp154", "csptcp154", "cyrillic_asian", "pt154"]⟩, [],
    ["0496049204EE0493201E202604B604AE04B204AF04A004E204A2049A04BA04B8049720182019201C201D2022",
     "2013201404B304B704A104E304A3049B04BB04B900A0040E045E040804E8049804B000A7040100A904D800AB",
     "00AC04EF00AE049C00B004B104060456049904E900B600B70451211604D900BB045804AA04AB049D04100411",
     "04120413041404150416041704180419041A041B041C041D041E041F04200421042204230424042504260427",
     "04280429042A042B042C042D042E042F0430043104320433043404350436043704380439043A043B043C043D",
     "043E043F0440044104420443044404450446044704480449044A044B044C044D044E044F"]⟩,
  ⟨⟨["tis_620"], ["iso_ir_166", "tis620", "tis_620_0", "tis_620_2529_0", "tis_620_2529_1"]⟩, [],
    ["0080008100820083008400850086008700880089008A008B008C008D008E008F009000910092009300940095",
     "0096009700980099009A009B009C009D009E009FFFFD0E010E020E030E040E050E060E070E080E090E0A0E0B",
     "0E0C0E0D0E0E0E0F0E100E110E120E130E140E150E160E170E180E190E1A0E1B0E1C0E1D0E1E0E1F0E200E21",
     "0E220E230E240E250E260E270E280E290E2A0E2B0E2C0E2D0E2E0E2F0E300E310E320E330E340E350E360E37",
     "0E380E390E3AFFFDFFFDFFFDFFFD0E3F0E400E410E420E430E440E450E460E470E480E490E4A0E4B0E4C0E4D",
     "0E4E0E4F0E500E510E520E530E540E550E560E570E580E590E5A0E5BFFFDFFFDFFFDFFFD"]⟩]

/-- Sets whose characters take more than one byte. -/
def multiByteNames : Names :=
  ⟨["big5", "big5hkscs", "cp932", "cp949", "cp950", "euc_jis_2004", "euc_jisx0213", "euc_jp",
    "euc_kr", "gb18030", "gb2312", "gbk", "iso2022_kr", "johab", "shift_jis", "shift_jis_2004",
    "shift_jisx0213", "utf_16", "utf_16_be", "utf_16_le", "utf_32", "utf_32_be", "utf_32_le",
    "utf_7"],
   ["big5_hkscs", "big5_tw", "chinese", "cp1361", "cp936", "csbig5", "csiso2022kr",
    "csiso58gb231280", "csshiftjis", "euc_cn", "euc_jis2004", "euccn", "eucgb2312_cn",
    "eucjis2004", "eucjisx0213", "eucjp", "euckr", "gb18030_2000", "gb2312_1980", "gb2312_80",
    "hkscs", "iso2022kr", "iso_2022_kr", "iso_ir_58", "jisx0213", "korean", "ks_c_5601",
    "ks_c_5601_1987", "ks_x_1001", "ksc5601", "ksx1001", "ms1361", "ms932", "ms936", "ms949",
    "ms950", "ms_kanji", "mskanji", "s_jis", "s_jis_2004", "s_jisx0213", "shiftjis",
    "shiftjis2004", "shiftjisx0213", "sjis", "sjis_2004", "sjisx0213", "u16", "u32", "u7", "u_jis",
    "uhc", "ujis", "unicode_1_1_utf_7", "unicodebigunmarked", "unicodelittleunmarked", "utf16",
    "utf32", "utf7", "utf_16be", "utf_16le", "utf_32be", "utf_32le", "x_mac_japanese",
    "x_mac_korean", "x_mac_simp_chinese", "x_mac_trad_chinese"]⟩

/-- Sets of one byte in which markup is not where ASCII has it. -/
def foreignNames : Names :=
  ⟨["cp037", "cp1026", "cp1140", "cp273", "cp424", "cp500", "cp864", "cp875", "mac_arabic",
    "mac_farsi"],
   ["csibm037", "csibm1026", "csibm273", "csibm424", "csibm500", "csibm864", "ebcdic_cp_be",
    "ebcdic_cp_ca", "ebcdic_cp_ch", "ebcdic_cp_he", "ebcdic_cp_nl", "ebcdic_cp_us", "ebcdic_cp_wt",
    "ibm037", "ibm039", "ibm1026", "ibm1140", "ibm273", "ibm424", "ibm500", "ibm864"]⟩

/-- Names of transformations of bytes that are no character sets. -/
def transformNames : Names :=
  ⟨["base64_codec", "bz2_codec", "hex_codec", "quopri_codec", "rot_13", "uu_codec", "zlib_codec"],
   ["base64", "base_64", "bz2", "hex", "quopri", "quoted_printable", "quotedprintable", "rot13",
    "uu", "zip", "zlib"]⟩

/-- Why an encoding cannot even be tried on bytes. -/
inductive Refusal where
  /-- It has no mark for bytes that stand for nothing. -/
  | unmarked
  /-- It decodes nothing at all. -/
  | undefined
  /-- It comes upon a byte that it does not decode. -/
  | undecodable
  deriving DecidableEq, Repr

/-- The refusal in words, of an encoding that was declared by a name. -/
def Refusal.message (name : String) : Refusal → String
  | .unmarked =>
    "decoding with '" ++ name ++ "' codec failed (UnicodeError: Unsupported error handling replace)"
  | .undefined => "decoding with '" ++ name ++ "' codec failed (UnicodeError: undefined encoding)"
  | .undecodable =>
    "'ascii' codec can't decode byte 0x80 in position 82: ordinal not in range(128)"

/-- The encodings that cannot be tried on bytes. -/
def refusals : List (String × Refusal) :=
  [("idna", .unmarked), ("undefined", .undefined), ("punycode", .undecodable)]

/-- A name in small letters, with one underscore between its parts and none at its ends. -/
def normalizedName (name : String) : String :=
  let step (parts : List Char × Bool) (c : Char) : List Char × Bool :=
    if c.isAlphanum || c = '.' then
      (if parts.2 && !parts.1.isEmpty then c.toLower :: '_' :: parts.1 else c.toLower :: parts.1,
        false)
    else (parts.1, true)
  String.ofList (name.toList.foldl step ([], false)).1.reverse

end SchemaTypes.Xml.Charset
