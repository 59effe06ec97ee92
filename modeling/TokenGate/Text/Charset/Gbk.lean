import TokenGate.Text.Charset.Grid

/-! Characters by which GBK and GB 18030 differ from GB 2312, apart from the ideographs that they
have in order. A row has 190 columns. -/

set_option autoImplicit false

namespace TokenGate.Charset

/-- Signs, letters and some ideographs that GBK has apart from those of GB 2312, by octets. -/
def gbkSigns : Grid := .ofNumbered
  [(32, "�������������������������������������������������������������������������������������" ++
     "��������������·�����—"),
   (33, "�������������������������������������������������������������������������������������" ++
     "�����������ⅰⅱⅲⅳⅴⅵⅶⅷⅸⅹ"),
   (37, "�������������������������������������������������������������������������������������" ++
     "��������������������������������������������������������������������������︵︶︹︺︿﹀︽︾﹁﹂﹃﹄�" ++
     "�︻︼︷︸︱�︳︴"),
   (39, "ˊˋ˙–―‥‵℅℉↖↗↘↙∕∟∣≒≦≧⊿═║╒╓╔╕╖╗╘╙╚╛╜╝╞╟╠╡╢╣╤╥╦╧╨╩╪╫╬╭╮╯╰╱╲╳▁▂▃▄▅▆▇█▉▊▋▌▍▎▏▓▔▕▼▽◢◣◤◥☉⊕〒〝〞" ++
     "�������������������������������������ɑ�ńň�ɡ"),
   (40, "〡〢〣〤〥〦〧〨〩㊣㎎㎏㎜㎝㎞㎡㏄㏎㏑㏒㏕︰￢￤�℡㈱�‐���ー゛゜ヽヾ〆ゝゞ﹉﹊﹋﹌﹍﹎﹏﹐﹑﹒﹔﹕﹖﹗﹙﹚﹛﹜﹝﹞﹟﹠﹡﹢﹣﹤﹥﹦﹨﹩﹪﹫�������������" ++
     "〇"),
   (124, "������������������������������������������������������������������������������������" ++
     "�������郎凉秊裏隣"),
   (125, "兀嗀﨎﨏﨑﨓﨔礼﨟蘒﨡﨣﨤﨧﨨﨩")]

def gb18030Signs : Grid := .ofNumbered
  [(33, "�������������������������������������������������������������������������������������" ++
     "�����������������������������������������������������������������������������€"),
   (39, "�������������������������������������������������������������������������������������" ++
     "�����������������������������������������ǹ"),
   (40, "������������������������������������������������������������������������〾⿰⿱⿲⿳⿴⿵⿶⿷⿸⿹⿺⿻"),
   (125, "����������������⺁���⺄㑳㑇⺈⺋�㖞㘚㘎⺌⺗㥮㤘�㧏㧟㩳㧐��㭎㱮㳠⺧��⺪䁖䅟⺮䌷⺳⺶⺷�䎱䎬⺻䏝䓖䙡䙌�䜣䜩䝼䞍⻊䥇䥺䥽䦂䦃䦅䦆䦟䦛䦷䦶��䲣䲟䲠" ++
     "䲡䱷䲢䴓䴔䴕䴖䴗䴘䴙䶮")]


end TokenGate.Charset
