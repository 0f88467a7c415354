import Signpost.Text.Ranges
import Signpost.Pattern.CharSet

/-!
# Scripts

Every character belongs to one script, written with four letters; some characters are used with
several scripts, and those are its script extensions.
-/

namespace Signpost.Pattern.Script

def table : RangeMap Text := .parse id
  "0-40:zyyy 41-5A:latn 5B-60:zyyy 61-7A:latn 7B-A9:zyyy AA:latn AB-B9:zyyy BA:latn BB-BF:zyyy
  C0-D6:latn D7:zyyy D8-F6:latn F7:zyyy F8-2B8:latn 2B9-2DF:zyyy 2E0-2E4:latn 2E5-2E9:zyyy
  2EA-2EB:bopo 2EC-2FF:zyyy 300-36F:zinh 370-373:grek 374:zyyy 375-377:grek 37A-37D:grek
  37E:zyyy 37F:grek 384:grek 385:zyyy 386:grek 387:zyyy 388-38A:grek 38C:grek 38E-3A1:grek
  3A3-3E1:grek 3E2-3EF:copt 3F0-3FF:grek 400-484:cyrl 485-486:zinh 487-52F:cyrl 531-556:armn
  559-58A:armn 58D-58F:armn 591-5C7:hebr 5D0-5EA:hebr 5EF-5F4:hebr 600-604:arab 605:zyyy
  606-60B:arab 60C:zyyy 60D-61A:arab 61B:zyyy 61C-61E:arab 61F:zyyy 620-63F:arab 640:zyyy
  641-64A:arab 64B-655:zinh 656-66F:arab 670:zinh 671-6DC:arab 6DD:zyyy 6DE-6FF:arab
  700-70D:syrc 70F-74A:syrc 74D-74F:syrc 750-77F:arab 780-7B1:thaa 7C0-7FA:nkoo 7FD-7FF:nkoo
  800-82D:samr 830-83E:samr 840-85B:mand 85E:mand 860-86A:syrc 870-88E:arab 890-891:arab
  897-8E1:arab 8E2:zyyy 8E3-8FF:arab 900-950:deva 951-954:zinh 955-963:deva 964-965:zyyy
  966-97F:deva 980-983:beng 985-98C:beng 98F-990:beng 993-9A8:beng 9AA-9B0:beng 9B2:beng
  9B6-9B9:beng 9BC-9C4:beng 9C7-9C8:beng 9CB-9CE:beng 9D7:beng 9DC-9DD:beng 9DF-9E3:beng
  9E6-9FE:beng A01-A03:guru A05-A0A:guru A0F-A10:guru A13-A28:guru A2A-A30:guru A32-A33:guru
  A35-A36:guru A38-A39:guru A3C:guru A3E-A42:guru A47-A48:guru A4B-A4D:guru A51:guru
  A59-A5C:guru A5E:guru A66-A76:guru A81-A83:gujr A85-A8D:gujr A8F-A91:gujr A93-AA8:gujr
  AAA-AB0:gujr AB2-AB3:gujr AB5-AB9:gujr ABC-AC5:gujr AC7-AC9:gujr ACB-ACD:gujr AD0:gujr
  AE0-AE3:gujr AE6-AF1:gujr AF9-AFF:gujr B01-B03:orya B05-B0C:orya B0F-B10:orya B13-B28:orya
  B2A-B30:orya B32-B33:orya B35-B39:orya B3C-B44:orya B47-B48:orya B4B-B4D:orya B55-B57:orya
  B5C-B5D:orya B5F-B63:orya B66-B77:orya B82-B83:taml B85-B8A:taml B8E-B90:taml B92-B95:taml
  B99-B9A:taml B9C:taml B9E-B9F:taml BA3-BA4:taml BA8-BAA:taml BAE-BB9:taml BBE-BC2:taml
  BC6-BC8:taml BCA-BCD:taml BD0:taml BD7:taml BE6-BFA:taml C00-C0C:telu C0E-C10:telu
  C12-C28:telu C2A-C39:telu C3C-C44:telu C46-C48:telu C4A-C4D:telu C55-C56:telu C58-C5A:telu
  C5D:telu C60-C63:telu C66-C6F:telu C77-C7F:telu C80-C8C:knda C8E-C90:knda C92-CA8:knda
  CAA-CB3:knda CB5-CB9:knda CBC-CC4:knda CC6-CC8:knda CCA-CCD:knda CD5-CD6:knda CDD-CDE:knda
  CE0-CE3:knda CE6-CEF:knda CF1-CF3:knda D00-D0C:mlym D0E-D10:mlym D12-D44:mlym D46-D48:mlym
  D4A-D4F:mlym D54-D63:mlym D66-D7F:mlym D81-D83:sinh D85-D96:sinh D9A-DB1:sinh DB3-DBB:sinh
  DBD:sinh DC0-DC6:sinh DCA:sinh DCF-DD4:sinh DD6:sinh DD8-DDF:sinh DE6-DEF:sinh DF2-DF4:sinh
  E01-E3A:thai E3F:zyyy E40-E5B:thai E81-E82:laoo E84:laoo E86-E8A:laoo E8C-EA3:laoo EA5:laoo
  EA7-EBD:laoo EC0-EC4:laoo EC6:laoo EC8-ECE:laoo ED0-ED9:laoo EDC-EDF:laoo F00-F47:tibt
  F49-F6C:tibt F71-F97:tibt F99-FBC:tibt FBE-FCC:tibt FCE-FD4:tibt FD5-FD8:zyyy FD9-FDA:tibt
  1000-109F:mymr 10A0-10C5:geor 10C7:geor 10CD:geor 10D0-10FA:geor 10FB:zyyy 10FC-10FF:geor
  1100-11FF:hang 1200-1248:ethi 124A-124D:ethi 1250-1256:ethi 1258:ethi 125A-125D:ethi
  1260-1288:ethi 128A-128D:ethi 1290-12B0:ethi 12B2-12B5:ethi 12B8-12BE:ethi 12C0:ethi
  12C2-12C5:ethi 12C8-12D6:ethi 12D8-1310:ethi 1312-1315:ethi 1318-135A:ethi 135D-137C:ethi
  1380-1399:ethi 13A0-13F5:cher 13F8-13FD:cher 1400-167F:cans 1680-169C:ogam 16A0-16EA:runr
  16EB-16ED:zyyy 16EE-16F8:runr 1700-1715:tglg 171F:tglg 1720-1734:hano 1735-1736:zyyy
  1740-1753:buhd 1760-176C:tagb 176E-1770:tagb 1772-1773:tagb 1780-17DD:khmr 17E0-17E9:khmr
  17F0-17F9:khmr 1800-1801:mong 1802-1803:zyyy 1804:mong 1805:zyyy 1806-1819:mong
  1820-1878:mong 1880-18AA:mong 18B0-18F5:cans 1900-191E:limb 1920-192B:limb 1930-193B:limb
  1940:limb 1944-194F:limb 1950-196D:tale 1970-1974:tale 1980-19AB:talu 19B0-19C9:talu
  19D0-19DA:talu 19DE-19DF:talu 19E0-19FF:khmr 1A00-1A1B:bugi 1A1E-1A1F:bugi 1A20-1A5E:lana
  1A60-1A7C:lana 1A7F-1A89:lana 1A90-1A99:lana 1AA0-1AAD:lana 1AB0-1ACE:zinh 1B00-1B4C:bali
  1B4E-1B7F:bali 1B80-1BBF:sund 1BC0-1BF3:batk 1BFC-1BFF:batk 1C00-1C37:lepc 1C3B-1C49:lepc
  1C4D-1C4F:lepc 1C50-1C7F:olck 1C80-1C8A:cyrl 1C90-1CBA:geor 1CBD-1CBF:geor 1CC0-1CC7:sund
  1CD0-1CD2:zinh 1CD3:zyyy 1CD4-1CE0:zinh 1CE1:zyyy 1CE2-1CE8:zinh 1CE9-1CEC:zyyy 1CED:zinh
  1CEE-1CF3:zyyy 1CF4:zinh 1CF5-1CF7:zyyy 1CF8-1CF9:zinh 1CFA:zyyy 1D00-1D25:latn
  1D26-1D2A:grek 1D2B:cyrl 1D2C-1D5C:latn 1D5D-1D61:grek 1D62-1D65:latn 1D66-1D6A:grek
  1D6B-1D77:latn 1D78:cyrl 1D79-1DBE:latn 1DBF:grek 1DC0-1DFF:zinh 1E00-1EFF:latn
  1F00-1F15:grek 1F18-1F1D:grek 1F20-1F45:grek 1F48-1F4D:grek 1F50-1F57:grek 1F59:grek
  1F5B:grek 1F5D:grek 1F5F-1F7D:grek 1F80-1FB4:grek 1FB6-1FC4:grek 1FC6-1FD3:grek
  1FD6-1FDB:grek 1FDD-1FEF:grek 1FF2-1FF4:grek 1FF6-1FFE:grek 2000-200B:zyyy 200C-200D:zinh
  200E-2064:zyyy 2066-2070:zyyy 2071:latn 2074-207E:zyyy 207F:latn 2080-208E:zyyy
  2090-209C:latn 20A0-20C0:zyyy 20D0-20F0:zinh 2100-2125:zyyy 2126:grek 2127-2129:zyyy
  212A-212B:latn 212C-2131:zyyy 2132:latn 2133-214D:zyyy 214E:latn 214F-215F:zyyy
  2160-2188:latn 2189-218B:zyyy 2190-2429:zyyy 2440-244A:zyyy 2460-27FF:zyyy 2800-28FF:brai
  2900-2B73:zyyy 2B76-2B95:zyyy 2B97-2BFF:zyyy 2C00-2C5F:glag 2C60-2C7F:latn 2C80-2CF3:copt
  2CF9-2CFF:copt 2D00-2D25:geor 2D27:geor 2D2D:geor 2D30-2D67:tfng 2D6F-2D70:tfng 2D7F:tfng
  2D80-2D96:ethi 2DA0-2DA6:ethi 2DA8-2DAE:ethi 2DB0-2DB6:ethi 2DB8-2DBE:ethi 2DC0-2DC6:ethi
  2DC8-2DCE:ethi 2DD0-2DD6:ethi 2DD8-2DDE:ethi 2DE0-2DFF:cyrl 2E00-2E5D:zyyy 2E80-2E99:hani
  2E9B-2EF3:hani 2F00-2FD5:hani 2FF0-3004:zyyy 3005:hani 3006:zyyy 3007:hani 3008-3020:zyyy
  3021-3029:hani 302A-302D:zinh 302E-302F:hang 3030-3037:zyyy 3038-303B:hani 303C-303F:zyyy
  3041-3096:hira 3099-309A:zinh 309B-309C:zyyy 309D-309F:hira 30A0:zyyy 30A1-30FA:kana
  30FB-30FC:zyyy 30FD-30FF:kana 3105-312F:bopo 3131-318E:hang 3190-319F:zyyy 31A0-31BF:bopo
  31C0-31E5:zyyy 31EF:zyyy 31F0-31FF:kana 3200-321E:hang 3220-325F:zyyy 3260-327E:hang
  327F-32CF:zyyy 32D0-32FE:kana 32FF:zyyy 3300-3357:kana 3358-33FF:zyyy 3400-4DBF:hani
  4DC0-4DFF:zyyy 4E00-9FFF:hani A000-A48C:yiii A490-A4C6:yiii A4D0-A4FF:lisu A500-A62B:vaii
  A640-A69F:cyrl A6A0-A6F7:bamu A700-A721:zyyy A722-A787:latn A788-A78A:zyyy A78B-A7CD:latn
  A7D0-A7D1:latn A7D3:latn A7D5-A7DC:latn A7F2-A7FF:latn A800-A82C:sylo A830-A839:zyyy
  A840-A877:phag A880-A8C5:saur A8CE-A8D9:saur A8E0-A8FF:deva A900-A92D:kali A92E:zyyy
  A92F:kali A930-A953:rjng A95F:rjng A960-A97C:hang A980-A9CD:java A9CF:zyyy A9D0-A9D9:java
  A9DE-A9DF:java A9E0-A9FE:mymr AA00-AA36:cham AA40-AA4D:cham AA50-AA59:cham AA5C-AA5F:cham
  AA60-AA7F:mymr AA80-AAC2:tavt AADB-AADF:tavt AAE0-AAF6:mtei AB01-AB06:ethi AB09-AB0E:ethi
  AB11-AB16:ethi AB20-AB26:ethi AB28-AB2E:ethi AB30-AB5A:latn AB5B:zyyy AB5C-AB64:latn
  AB65:grek AB66-AB69:latn AB6A-AB6B:zyyy AB70-ABBF:cher ABC0-ABED:mtei ABF0-ABF9:mtei
  AC00-D7A3:hang D7B0-D7C6:hang D7CB-D7FB:hang F900-FA6D:hani FA70-FAD9:hani FB00-FB06:latn
  FB13-FB17:armn FB1D-FB36:hebr FB38-FB3C:hebr FB3E:hebr FB40-FB41:hebr FB43-FB44:hebr
  FB46-FB4F:hebr FB50-FBC2:arab FBD3-FD3D:arab FD3E-FD3F:zyyy FD40-FD8F:arab FD92-FDC7:arab
  FDCF:arab FDF0-FDFF:arab FE00-FE0F:zinh FE10-FE19:zyyy FE20-FE2D:zinh FE2E-FE2F:cyrl
  FE30-FE52:zyyy FE54-FE66:zyyy FE68-FE6B:zyyy FE70-FE74:arab FE76-FEFC:arab FEFF:zyyy
  FF01-FF20:zyyy FF21-FF3A:latn FF3B-FF40:zyyy FF41-FF5A:latn FF5B-FF65:zyyy FF66-FF6F:kana
  FF70:zyyy FF71-FF9D:kana FF9E-FF9F:zyyy FFA0-FFBE:hang FFC2-FFC7:hang FFCA-FFCF:hang
  FFD2-FFD7:hang FFDA-FFDC:hang FFE0-FFE6:zyyy FFE8-FFEE:zyyy FFF9-FFFD:zyyy 10000-1000B:linb
  1000D-10026:linb 10028-1003A:linb 1003C-1003D:linb 1003F-1004D:linb 10050-1005D:linb
  10080-100FA:linb 10100-10102:zyyy 10107-10133:zyyy 10137-1013F:zyyy 10140-1018E:grek
  10190-1019C:zyyy 101A0:grek 101D0-101FC:zyyy 101FD:zinh 10280-1029C:lyci 102A0-102D0:cari
  102E0:zinh 102E1-102FB:zyyy 10300-10323:ital 1032D-1032F:ital 10330-1034A:goth
  10350-1037A:perm 10380-1039D:ugar 1039F:ugar 103A0-103C3:xpeo 103C8-103D5:xpeo
  10400-1044F:dsrt 10450-1047F:shaw 10480-1049D:osma 104A0-104A9:osma 104B0-104D3:osge
  104D8-104FB:osge 10500-10527:elba 10530-10563:aghb 1056F:aghb 10570-1057A:vith
  1057C-1058A:vith 1058C-10592:vith 10594-10595:vith 10597-105A1:vith 105A3-105B1:vith
  105B3-105B9:vith 105BB-105BC:vith 105C0-105F3:todr 10600-10736:lina 10740-10755:lina
  10760-10767:lina 10780-10785:latn 10787-107B0:latn 107B2-107BA:latn 10800-10805:cprt
  10808:cprt 1080A-10835:cprt 10837-10838:cprt 1083C:cprt 1083F:cprt 10840-10855:armi
  10857-1085F:armi 10860-1087F:palm 10880-1089E:nbat 108A7-108AF:nbat 108E0-108F2:hatr
  108F4-108F5:hatr 108FB-108FF:hatr 10900-1091B:phnx 1091F:phnx 10920-10939:lydi 1093F:lydi
  10980-1099F:mero 109A0-109B7:merc 109BC-109CF:merc 109D2-109FF:merc 10A00-10A03:khar
  10A05-10A06:khar 10A0C-10A13:khar 10A15-10A17:khar 10A19-10A35:khar 10A38-10A3A:khar
  10A3F-10A48:khar 10A50-10A58:khar 10A60-10A7F:sarb 10A80-10A9F:narb 10AC0-10AE6:mani
  10AEB-10AF6:mani 10B00-10B35:avst 10B39-10B3F:avst 10B40-10B55:prti 10B58-10B5F:prti
  10B60-10B72:phli 10B78-10B7F:phli 10B80-10B91:phlp 10B99-10B9C:phlp 10BA9-10BAF:phlp
  10C00-10C48:orkh 10C80-10CB2:hung 10CC0-10CF2:hung 10CFA-10CFF:hung 10D00-10D27:rohg
  10D30-10D39:rohg 10D40-10D65:gara 10D69-10D85:gara 10D8E-10D8F:gara 10E60-10E7E:arab
  10E80-10EA9:yezi 10EAB-10EAD:yezi 10EB0-10EB1:yezi 10EC2-10EC4:arab 10EFC-10EFF:arab
  10F00-10F27:sogo 10F30-10F59:sogd 10F70-10F89:ougr 10FB0-10FCB:chrs 10FE0-10FF6:elym
  11000-1104D:brah 11052-11075:brah 1107F:brah 11080-110C2:kthi 110CD:kthi 110D0-110E8:sora
  110F0-110F9:sora 11100-11134:cakm 11136-11147:cakm 11150-11176:mahj 11180-111DF:shrd
  111E1-111F4:sinh 11200-11211:khoj 11213-11241:khoj 11280-11286:mult 11288:mult
  1128A-1128D:mult 1128F-1129D:mult 1129F-112A9:mult 112B0-112EA:sind 112F0-112F9:sind
  11300-11303:gran 11305-1130C:gran 1130F-11310:gran 11313-11328:gran 1132A-11330:gran
  11332-11333:gran 11335-11339:gran 1133B:zinh 1133C-11344:gran 11347-11348:gran
  1134B-1134D:gran 11350:gran 11357:gran 1135D-11363:gran 11366-1136C:gran 11370-11374:gran
  11380-11389:tutg 1138B:tutg 1138E:tutg 11390-113B5:tutg 113B7-113C0:tutg 113C2:tutg
  113C5:tutg 113C7-113CA:tutg 113CC-113D5:tutg 113D7-113D8:tutg 113E1-113E2:tutg
  11400-1145B:newa 1145D-11461:newa 11480-114C7:tirh 114D0-114D9:tirh 11580-115B5:sidd
  115B8-115DD:sidd 11600-11644:modi 11650-11659:modi 11660-1166C:mong 11680-116B9:takr
  116C0-116C9:takr 116D0-116E3:mymr 11700-1171A:ahom 1171D-1172B:ahom 11730-11746:ahom
  11800-1183B:dogr 118A0-118F2:wara 118FF:wara 11900-11906:diak 11909:diak 1190C-11913:diak
  11915-11916:diak 11918-11935:diak 11937-11938:diak 1193B-11946:diak 11950-11959:diak
  119A0-119A7:nand 119AA-119D7:nand 119DA-119E4:nand 11A00-11A47:zanb 11A50-11AA2:soyo
  11AB0-11ABF:cans 11AC0-11AF8:pauc 11B00-11B09:deva 11BC0-11BE1:sunu 11BF0-11BF9:sunu
  11C00-11C08:bhks 11C0A-11C36:bhks 11C38-11C45:bhks 11C50-11C6C:bhks 11C70-11C8F:marc
  11C92-11CA7:marc 11CA9-11CB6:marc 11D00-11D06:gonm 11D08-11D09:gonm 11D0B-11D36:gonm
  11D3A:gonm 11D3C-11D3D:gonm 11D3F-11D47:gonm 11D50-11D59:gonm 11D60-11D65:gong
  11D67-11D68:gong 11D6A-11D8E:gong 11D90-11D91:gong 11D93-11D98:gong 11DA0-11DA9:gong
  11EE0-11EF8:maka 11F00-11F10:kawi 11F12-11F3A:kawi 11F3E-11F5A:kawi 11FB0:lisu
  11FC0-11FF1:taml 11FFF:taml 12000-12399:xsux 12400-1246E:xsux 12470-12474:xsux
  12480-12543:xsux 12F90-12FF2:cpmn 13000-13455:egyp 13460-143FA:egyp 14400-14646:hluw
  16100-16139:gukh 16800-16A38:bamu 16A40-16A5E:mroo 16A60-16A69:mroo 16A6E-16A6F:mroo
  16A70-16ABE:tnsa 16AC0-16AC9:tnsa 16AD0-16AED:bass 16AF0-16AF5:bass 16B00-16B45:hmng
  16B50-16B59:hmng 16B5B-16B61:hmng 16B63-16B77:hmng 16B7D-16B8F:hmng 16D40-16D79:krai
  16E40-16E9A:medf 16F00-16F4A:plrd 16F4F-16F87:plrd 16F8F-16F9F:plrd 16FE0:tang 16FE1:nshu
  16FE2-16FE3:hani 16FE4:kits 16FF0-16FF1:hani 17000-187F7:tang 18800-18AFF:tang
  18B00-18CD5:kits 18CFF:kits 18D00-18D08:tang 1AFF0-1AFF3:kana 1AFF5-1AFFB:kana
  1AFFD-1AFFE:kana 1B000:kana 1B001-1B11F:hira 1B120-1B122:kana 1B132:hira 1B150-1B152:hira
  1B155:kana 1B164-1B167:kana 1B170-1B2FB:nshu 1BC00-1BC6A:dupl 1BC70-1BC7C:dupl
  1BC80-1BC88:dupl 1BC90-1BC99:dupl 1BC9C-1BC9F:dupl 1BCA0-1BCA3:zyyy 1CC00-1CCF9:zyyy
  1CD00-1CEB3:zyyy 1CF00-1CF2D:zinh 1CF30-1CF46:zinh 1CF50-1CFC3:zyyy 1D000-1D0F5:zyyy
  1D100-1D126:zyyy 1D129-1D166:zyyy 1D167-1D169:zinh 1D16A-1D17A:zyyy 1D17B-1D182:zinh
  1D183-1D184:zyyy 1D185-1D18B:zinh 1D18C-1D1A9:zyyy 1D1AA-1D1AD:zinh 1D1AE-1D1EA:zyyy
  1D200-1D245:grek 1D2C0-1D2D3:zyyy 1D2E0-1D2F3:zyyy 1D300-1D356:zyyy 1D360-1D378:zyyy
  1D400-1D454:zyyy 1D456-1D49C:zyyy 1D49E-1D49F:zyyy 1D4A2:zyyy 1D4A5-1D4A6:zyyy
  1D4A9-1D4AC:zyyy 1D4AE-1D4B9:zyyy 1D4BB:zyyy 1D4BD-1D4C3:zyyy 1D4C5-1D505:zyyy
  1D507-1D50A:zyyy 1D50D-1D514:zyyy 1D516-1D51C:zyyy 1D51E-1D539:zyyy 1D53B-1D53E:zyyy
  1D540-1D544:zyyy 1D546:zyyy 1D54A-1D550:zyyy 1D552-1D6A5:zyyy 1D6A8-1D7CB:zyyy
  1D7CE-1D7FF:zyyy 1D800-1DA8B:sgnw 1DA9B-1DA9F:sgnw 1DAA1-1DAAF:sgnw 1DF00-1DF1E:latn
  1DF25-1DF2A:latn 1E000-1E006:glag 1E008-1E018:glag 1E01B-1E021:glag 1E023-1E024:glag
  1E026-1E02A:glag 1E030-1E06D:cyrl 1E08F:cyrl 1E100-1E12C:hmnp 1E130-1E13D:hmnp
  1E140-1E149:hmnp 1E14E-1E14F:hmnp 1E290-1E2AE:toto 1E2C0-1E2F9:wcho 1E2FF:wcho
  1E4D0-1E4F9:nagm 1E5D0-1E5FA:onao 1E5FF:onao 1E7E0-1E7E6:ethi 1E7E8-1E7EB:ethi
  1E7ED-1E7EE:ethi 1E7F0-1E7FE:ethi 1E800-1E8C4:mend 1E8C7-1E8D6:mend 1E900-1E94B:adlm
  1E950-1E959:adlm 1E95E-1E95F:adlm 1EC71-1ECB4:zyyy 1ED01-1ED3D:zyyy 1EE00-1EE03:arab
  1EE05-1EE1F:arab 1EE21-1EE22:arab 1EE24:arab 1EE27:arab 1EE29-1EE32:arab 1EE34-1EE37:arab
  1EE39:arab 1EE3B:arab 1EE42:arab 1EE47:arab 1EE49:arab 1EE4B:arab 1EE4D-1EE4F:arab
  1EE51-1EE52:arab 1EE54:arab 1EE57:arab 1EE59:arab 1EE5B:arab 1EE5D:arab 1EE5F:arab
  1EE61-1EE62:arab 1EE64:arab 1EE67-1EE6A:arab 1EE6C-1EE72:arab 1EE74-1EE77:arab
  1EE79-1EE7C:arab 1EE7E:arab 1EE80-1EE89:arab 1EE8B-1EE9B:arab 1EEA1-1EEA3:arab
  1EEA5-1EEA9:arab 1EEAB-1EEBB:arab 1EEF0-1EEF1:arab 1F000-1F02B:zyyy 1F030-1F093:zyyy
  1F0A0-1F0AE:zyyy 1F0B1-1F0BF:zyyy 1F0C1-1F0CF:zyyy 1F0D1-1F0F5:zyyy 1F100-1F1AD:zyyy
  1F1E6-1F1FF:zyyy 1F200:hira 1F201-1F202:zyyy 1F210-1F23B:zyyy 1F240-1F248:zyyy
  1F250-1F251:zyyy 1F260-1F265:zyyy 1F300-1F6D7:zyyy 1F6DC-1F6EC:zyyy 1F6F0-1F6FC:zyyy
  1F700-1F776:zyyy 1F77B-1F7D9:zyyy 1F7E0-1F7EB:zyyy 1F7F0:zyyy 1F800-1F80B:zyyy
  1F810-1F847:zyyy 1F850-1F859:zyyy 1F860-1F887:zyyy 1F890-1F8AD:zyyy 1F8B0-1F8BB:zyyy
  1F8C0-1F8C1:zyyy 1F900-1FA53:zyyy 1FA60-1FA6D:zyyy 1FA70-1FA7C:zyyy 1FA80-1FA89:zyyy
  1FA8F-1FAC6:zyyy 1FACE-1FADC:zyyy 1FADF-1FAE9:zyyy 1FAF0-1FAF8:zyyy 1FB00-1FB92:zyyy
  1FB94-1FBF9:zyyy 20000-2A6DF:hani 2A700-2B739:hani 2B740-2B81D:hani 2B820-2CEA1:hani
  2CEB0-2EBE0:hani 2EBF0-2EE5D:hani 2F800-2FA1D:hani 30000-3134A:hani 31350-323AF:hani
  E0001:zyyy E0020-E007F:zyyy E0100-E01EF:zinh"

/-- The characters whose script extensions are not just their script, with these extensions. -/
def extensionTable : RangeMap (List Text) := .parse (Text.splitOn '+')
  "B7:avst+cari+copt+dupl+elba+geor+glag+gong+goth+grek+hani+latn+lydi+mahj+perm+shaw
  2BC:beng+cyrl+deva+latn+lisu+thai+toto 2C7:bopo+latn 2C9-2CB:bopo+latn 2CD:latn+lisu
  2D7:latn+thai 2D9:bopo+latn 300:cher+copt+cyrl+grek+latn+perm+sunu+tale
  301:cher+cyrl+grek+latn+osge+sunu+tale+todr 302:cher+cyrl+latn+tfng
  303:glag+latn+sunu+syrc+thai 304:aghb+cher+copt+cyrl+goth+grek+latn+osge+syrc+tfng+todr
  305:copt+elba+glag+goth+kana+latn 306:cyrl+grek+latn+perm+tfng
  307:copt+dupl+hebr+latn+perm+syrc+tale+tfng+todr
  308:armn+cyrl+dupl+goth+grek+hebr+latn+perm+syrc+tale+tfng 309:latn+tfng 30A:dupl+latn+syrc
  30B:cher+cyrl+latn+osge 30C:cher+latn+tale 30D:latn+sunu 30E:ethi+latn 310:latn+sunu
  311:cyrl+latn+todr 313:grek+latn+perm+todr 323:cher+dupl+kana+latn+syrc+tfng
  324:cher+dupl+latn+syrc 325:latn+syrc 32D:latn+sunu+syrc 32E:latn+syrc 330:cher+latn+syrc
  331:aghb+cher+goth+latn+sunu+syrc+thai 342:grek 345:grek 358:latn+osge 35E:aghb+latn+todr
  363-36F:latn 374-375:copt+grek 483:cyrl+perm 484:cyrl+glag 485-486:cyrl+latn 487:cyrl+glag
  589:armn+geor+glag 60C:arab+gara+nkoo+rohg+syrc+thaa+yezi
  61B:arab+gara+nkoo+rohg+syrc+thaa+yezi 61C:arab+syrc+thaa
  61F:adlm+arab+gara+nkoo+rohg+syrc+thaa+yezi
  640:adlm+arab+mand+mani+ougr+phlp+rohg+sogd+syrc 64B-655:arab+syrc 660-669:arab+thaa+yezi
  670:arab+syrc 6D4:arab+rohg
  951:beng+deva+gran+gujr+guru+knda+latn+mlym+nand+newa+orya+shrd+taml+telu+tirh
  952:beng+deva+gran+gujr+guru+knda+latn+mlym+newa+orya+taml+telu+tirh
  964:beng+deva+dogr+gong+gonm+gran+gujr+guru+knda+mahj+mlym+nand+onao+orya+sind+sinh+sylo+takr+taml+telu+tirh
  965:beng+deva+dogr+gong+gonm+gran+gujr+gukh+guru+knda+limb+mahj+mlym+nand+onao+orya+sind+sinh+sylo+takr+taml+telu+tirh
  966-96F:deva+dogr+kthi+mahj 9E6-9EF:beng+cakm+sylo A66-A6F:guru+mult AE6-AEF:gujr+khoj
  BE6-BF3:gran+taml CE6-CEF:knda+nand+tutg 1040-1049:cakm+mymr+tale 10FB:geor+glag+latn
  16EB-16ED:runr 1735-1736:buhd+hano+tagb+tglg 1802-1803:mong+phag 1805:mong+phag
  1CD0:beng+deva+gran+knda 1CD1:deva 1CD2:beng+deva+gran+knda 1CD3:deva+gran+knda 1CD4:deva
  1CD5:beng+deva+newa+telu+tirh 1CD6:beng+deva+telu 1CD7:deva+newa+shrd
  1CD8:beng+deva+newa+telu 1CD9:deva+shrd 1CDA:deva+knda+mlym+orya+taml+telu 1CDB:deva
  1CDC-1CDD:deva+shrd 1CDE-1CDF:deva 1CE0:deva+shrd 1CE1:beng+deva 1CE2:deva+newa+tirh
  1CE3-1CE8:deva 1CE9:deva+nand+newa 1CEA:beng+deva+shrd 1CEB:deva+newa 1CEC:deva
  1CED:beng+deva+newa+shrd 1CEE-1CF1:deva
  1CF2:beng+deva+gran+knda+mlym+nand+orya+sinh+telu+tirh+tutg 1CF3:deva+gran
  1CF4:deva+gran+knda+tutg 1CF5-1CF6:beng+deva 1CF7:beng 1CF8-1CF9:deva+gran 1CFA:nand
  1DC0-1DC1:grek 1DF8:cyrl+latn+syrc 1DFA:syrc 202F:latn+mong+phag 204F:adlm+arab
  205A:cari+geor+glag+hung+lyci+orkh 205D:cari+grek+hung+mero 20F0:deva+gran+latn
  2E17:copt+latn 2E30:avst+orkh 2E31:avst+cari+geor+hung+kthi+lydi+samr 2E3C:dupl
  2E41:adlm+arab+hung 2E43:cyrl+glag 2FF0-2FFF:hani+tang
  3001:bopo+hang+hani+hira+kana+mong+yiii 3002:bopo+hang+hani+hira+kana+mong+phag+yiii
  3003:bopo+hang+hani+hira+kana 3006:hani 3008-3009:bopo+hang+hani+hira+kana+mong+tibt+yiii
  300A-300B:bopo+hang+hani+hira+kana+lisu+mong+tibt+yiii
  300C-3011:bopo+hang+hani+hira+kana+yiii 3013:bopo+hang+hani+hira+kana
  3014-301B:bopo+hang+hani+hira+kana+yiii 301C-301F:bopo+hang+hani+hira+kana
  302A-302D:bopo+hani 3030:bopo+hang+hani+hira+kana 3031-3035:hira+kana
  3037:bopo+hang+hani+hira+kana 303C-303D:hani+hira+kana 303E-303F:hani 3099-309C:hira+kana
  30A0:hira+kana 30FB:bopo+hang+hani+hira+kana+yiii 30FC:hira+kana 3190-319F:hani
  31C0-31E5:hani 31EF:hani+tang 3220-3247:hani 3280-32B0:hani 32C0-32CB:hani 32FF:hani
  3358-3370:hani 337B-337F:hani 33E0-33FE:hani A66F:cyrl+glag A700-A707:hani+latn
  A830-A832:deva+dogr+gujr+guru+khoj+knda+kthi+mahj+mlym+modi+nand+shrd+sind+takr+tirh+tutg
  A833-A835:deva+dogr+gujr+guru+khoj+knda+kthi+mahj+modi+nand+shrd+sind+takr+tirh+tutg
  A836-A837:deva+dogr+gujr+guru+khoj+kthi+mahj+modi+sind+takr+tirh
  A838:deva+dogr+gujr+guru+khoj+kthi+mahj+modi+shrd+sind+takr+tirh
  A839:deva+dogr+gujr+guru+khoj+kthi+mahj+modi+sind+takr+tirh A8F1:beng+deva+tutg
  A8F3:deva+taml A92E:kali+latn+mymr A9CF:bugi+java FD3E-FD3F:arab+nkoo FDF2:arab+thaa
  FDFD:arab+thaa FE45-FE46:bopo+hang+hani+hira+kana FF61-FF65:bopo+hang+hani+hira+kana+yiii
  FF70:hira+kana FF9E-FF9F:hira+kana 10100-10101:cpmn+cprt+linb 10102:cprt+linb
  10107-10133:cprt+lina+linb 10137-1013F:cprt+linb 102E0-102FB:arab+copt 10AF2:mani+ougr
  11301:gran+taml 11303:gran+taml 1133B-1133C:gran+taml 11FD0-11FD1:gran+taml 11FD3:gran+taml
  1BCA0-1BCA3:dupl 1D360-1D371:hani 1F250-1F251:hani"

/-- The scripts, each followed by the other spellings of its name; words are set apart by blanks,
scripts by semicolons. -/
def namesTable : String :=
  "adlm adlam ; aghb caucasianalbanian ; ahom ; arab arabic ; armi imperialaramaic ; armn
  armenian ; avst avestan ; bali balinese ; bamu bamum ; bass bassavah ; batk batak ; beng
  bengali ; bhks bhaiksuki ; bopo bopomofo ; brah brahmi ; brai braille ; bugi buginese ;
  buhd buhid ; cakm chakma ; cans canadianaboriginal ; cari carian ; cham ; cher cherokee ;
  chrs chorasmian ; copt coptic qaac ; cpmn cyprominoan ; cprt cypriot ; cyrl cyrillic ; deva
  devanagari ; diak divesakuru ; dogr dogra ; dsrt deseret ; dupl duployan ; egyp
  egyptianhieroglyphs ; elba elbasan ; elym elymaic ; ethi ethiopic ; geor georgian ; glag
  glagolitic ; gong gunjalagondi ; gonm masaramgondi ; goth gothic ; gran grantha ; grek
  greek ; gujr gujarati ; guru gurmukhi ; hang hangul ; hani han ; hano hanunoo ; hatr hatran
  ; hebr hebrew ; hira hiragana ; hluw anatolianhieroglyphs ; hmng pahawhhmong ; hmnp
  nyiakengpuachuehmong ; hung oldhungarian ; ital olditalic ; java javanese ; kali kayahli ;
  kana katakana ; kawi ; khar kharoshthi ; khmr khmer ; khoj khojki ; kits khitansmallscript
  ; knda kannada ; kthi kaithi ; lana taitham ; laoo lao ; latn latin ; lepc lepcha ; limb
  limbu ; lina lineara ; linb linearb ; lisu ; lyci lycian ; lydi lydian ; mahj mahajani ;
  maka makasar ; mand mandaic ; mani manichaean ; marc marchen ; medf medefaidrin ; mend
  mendekikakui ; merc meroiticcursive ; mero meroitichieroglyphs ; mlym malayalam ; modi ;
  mong mongolian ; mroo mro ; mtei meeteimayek ; mult multani ; mymr myanmar ; nagm
  nagmundari ; nand nandinagari ; narb oldnortharabian ; nbat nabataean ; newa ; nkoo nko ;
  nshu nushu ; ogam ogham ; olck olchiki ; orkh oldturkic ; orya oriya ; osge osage ; osma
  osmanya ; ougr olduyghur ; palm palmyrene ; pauc paucinhau ; perm oldpermic ; phag phagspa
  ; phli inscriptionalpahlavi ; phlp psalterpahlavi ; phnx phoenician ; plrd miao ; prti
  inscriptionalparthian ; rjng rejang ; rohg hanifirohingya ; runr runic ; samr samaritan ;
  sarb oldsoutharabian ; saur saurashtra ; sgnw signwriting ; shaw shavian ; shrd sharada ;
  sidd siddham ; sind khudawadi ; sinh sinhala ; sogd sogdian ; sogo oldsogdian ; sora
  sorasompeng ; soyo soyombo ; sund sundanese ; sylo sylotinagri ; syrc syriac ; tagb
  tagbanwa ; takr takri ; tale taile ; talu newtailue ; taml tamil ; tang tangut ; tavt
  taiviet ; telu telugu ; tfng tifinagh ; tglg tagalog ; thaa thaana ; thai ; tibt tibetan ;
  tirh tirhuta ; tnsa tangsa ; toto ; ugar ugaritic ; vaii vai ; vith vithkuqi ; wara
  warangciti ; wcho wancho ; xpeo oldpersian ; xsux cuneiform ; yezi yezidi ; yiii yi ; zanb
  zanabazarsquare ; zinh inherited qaai ; zyyy common ; gara garay ; gukh gurungkhema ; krai
  kiratrai ; onao olonal ; sunu sunuwar ; todr todhri ; tutg tulutigalari"

def vacantNames : String := "zzzz unknown hrkt katakanaorhiragana"

def named? (name : Text) : Option Text :=
  (Text.splitOn ';' namesTable.toList).findSome? fun entry =>
    let names := Text.words entry
    if names.any (· == name) then names.head? else none

def members (script : Text) : CharSet :=
  .ofRanges ((table.toList.filter fun r => r.value == script).map fun r => (r.first, r.last))

def extendedMembers (script : Text) : CharSet :=
  let special := extensionTable.toList.map fun r => (r.first, r.last)
  let having := (extensionTable.toList.filter fun r => r.value.any (· == script)).map
    fun r => (r.first, r.last)
  ((members script).difference (.ofRanges special)).union (.ofRanges having)

/-- The script with a name in small letters, as its four letters in small ones. -/
def find? (name : Text) : Option CharSet := (named? name).map (members ·)

/-- The characters used with the script of a name in small letters. -/
def findExtended? (name : Text) : Option CharSet := (named? name).map (extendedMembers ·)

/-- Whether a name in small letters is the name of a script without characters. -/
def isVacant (name : Text) : Bool := (Text.words vacantNames.toList).any (· == name)

end Signpost.Pattern.Script
