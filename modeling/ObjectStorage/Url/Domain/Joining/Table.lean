/-!
# Table of the ways in which letters join

Letters join with the next one (`l`), with the one before (`r`), with both (`d`) or with none (`n`),
and others are passed over (`t`).  The table lists the characters from which on that changes.
-/

namespace ObjectStorage.Url.Domain

def joiningChanges : List String := [
  "A1:n 300:t 371:n 483:t 48B:n 591:t 5BE:n 5BF:t 5C0:n 5C1:t 5C3:n 5C4:t 5C6:n 5C7:t 5D0:n",
  "610:t 61B:n 620:d 621:n 622:r 626:d 627:r 628:d 629:r 62A:d 62F:r 633:d 640:n 641:d 648:r",
  "649:d 64B:t 660:n 66E:d 670:t 671:r 674:n 679:d 688:r 69A:d 6C0:r 6C1:d 6C3:r 6CC:d 6CD:r",
  "6CE:d 6CF:r 6D0:d 6D2:r 6D4:n 6D5:r 6D6:t 6DE:n 6DF:t 6E5:n 6E7:t 6E9:n 6EA:t 6EE:r 6F0:n",
  "6FA:d 6FD:n 6FF:d 700:n 710:r 711:t 712:d 715:r 71A:d 71E:r 71F:d 728:r 729:d 72A:r 72B:d",
  "72C:r 72D:d 72F:r 730:t 74D:r 74E:d 759:r 75C:d 76B:r 76D:d 771:r 772:d 773:r 775:d 778:r",
  "77A:d 780:n 7A6:t 7B1:n 7CA:d 7EB:t 7F4:n 7FD:t 7FE:n 816:t 81A:n 81B:t 824:n 825:t 828:n",
  "829:t 830:n 840:r 841:d 846:r 848:d 849:r 84A:d 854:r 855:d 856:r 859:t 85E:n 860:d 861:n",
  "862:d 866:n 867:r 868:d 869:r 883:n 886:d 887:n 889:d 88E:r 88F:d 897:t 8A0:d 8AA:r 8AD:n",
  "8AE:r 8AF:d 8B1:r 8B3:d 8B9:r 8BA:d 8C9:n 8CA:t 903:n 93A:t 93B:n 93C:t 93D:n 941:t 949:n",
  "94D:t 94E:n 951:t 960:n 962:t 964:n 981:t 982:n 9BC:t 9BD:n 9C1:t 9C7:n 9CD:t 9CE:n 9E2:t",
  "9E6:n 9FE:t A03:n A3C:t A3E:n A41:t A5C:n A70:t A72:n A75:t A76:n A81:t A83:n ABC:t ABD:n",
  "AC1:t AC9:n ACD:t AD0:n AE2:t AE6:n AFA:t B02:n B3C:t B3D:n B3F:t B40:n B41:t B47:n B4D:t",
  "B57:n B62:t B66:n B82:t B83:n BC0:t BC1:n BCD:t BD0:n C00:t C01:n C04:t C05:n C3C:t C3D:n",
  "C3E:t C41:n C46:t C58:n C62:t C66:n C81:t C82:n CBC:t CBD:n CBF:t CC0:n CC6:t CC7:n CCC:t",
  "CD5:n CE2:t CE6:n D00:t D02:n D3B:t D3D:n D41:t D46:n D4D:t D4E:n D62:t D66:n D81:t D82:n",
  "DCA:t DCF:n DD2:t DD8:n E31:t E32:n E34:t E3F:n E47:t E4F:n EB1:t EB2:n EB4:t EBD:n EC8:t",
  "ED0:n F18:t F1A:n F35:t F36:n F37:t F38:n F39:t F3A:n F71:t F7F:n F80:t F85:n F86:t F88:n",
  "F8D:t FBE:n FC6:t FC7:n 102D:t 1031:n 1032:t 1038:n 1039:t 103B:n 103D:t 103F:n 1058:t",
  "105A:n 105E:t 1061:n 1071:t 1075:n 1082:t 1083:n 1085:t 1087:n 108D:t 108E:n 109D:t 109E:n",
  "135D:t 1360:n 1712:t 1715:n 1732:t 1734:n 1752:t 1760:n 1772:t 1780:n 17B7:t 17BE:n 17C6:t",
  "17C7:n 17C9:t 17D4:n 17DD:t 17E0:n 1807:d 1808:n 1820:d 1880:n 1885:t 1887:d 18A9:t 18AA:d",
  "18B0:n 1920:t 1923:n 1927:t 1929:n 1932:t 1933:n 1939:t 1940:n 1A17:t 1A19:n 1A1B:t 1A1E:n",
  "1A56:t 1A57:n 1A58:t 1A61:n 1A62:t 1A63:n 1A65:t 1A6D:n 1A73:t 1A80:n 1AB0:t 1B04:n 1B34:t",
  "1B35:n 1B36:t 1B3B:n 1B3C:t 1B3D:n 1B42:t 1B43:n 1B6B:t 1B74:n 1B80:t 1B82:n 1BA2:t 1BA6:n",
  "1BA8:t 1BAA:n 1BAB:t 1BAE:n 1BE6:t 1BE7:n 1BE8:t 1BEA:n 1BED:t 1BEE:n 1BEF:t 1BF2:n 1C2C:t",
  "1C34:n 1C36:t 1C3B:n 1CD0:t 1CD3:n 1CD4:t 1CE1:n 1CE2:t 1CE9:n 1CED:t 1CEE:n 1CF4:t 1CF5:n",
  "1CF8:t 1CFA:n 1DC0:t 1E01:n 20D0:t 2104:n 2CEF:t 2CF3:n 2D7F:t 2D80:n 2DE0:t 2E00:n 302A:t",
  "302E:n 3099:t 309D:n A66F:t A673:n A674:t A67E:n A69E:t A6A0:n A6F0:t A6F2:n A802:t A803:n",
  "A806:t A807:n A80B:t A80C:n A825:t A827:n A82C:t A830:n A840:d A872:l A873:n A8C4:t A8CE:n",
  "A8E0:t A8F2:n A8FF:t A900:n A926:t A92E:n A947:t A952:n A980:t A983:n A9B3:t A9B4:n A9B6:t",
  "A9BA:n A9BC:t A9BE:n A9E5:t A9E6:n AA29:t AA2F:n AA31:t AA33:n AA35:t AA40:n AA43:t AA44:n",
  "AA4C:t AA4D:n AA7C:t AA7D:n AAB0:t AAB1:n AAB2:t AAB5:n AAB7:t AAB9:n AABE:t AAC0:n AAC1:t",
  "AAC2:n AAEC:t AAEE:n AAF6:t AB01:n ABE5:t ABE6:n ABE8:t ABE9:n ABED:t ABF0:n FB1E:t FBB2:n",
  "FE20:t FE45:n 101FD:t 10280:n 102E0:t 102E1:n 10376:t 10380:n 10A01:t 10A10:n 10A38:t",
  "10A40:n 10AC0:d 10AC5:r 10AC6:n 10AC7:r 10AC8:n 10AC9:r 10ACB:n 10ACD:l 10ACE:r 10AD3:d",
  "10AD7:l 10AD8:d 10ADD:r 10ADE:d 10AE1:r 10AE2:n 10AE4:r 10AE5:t 10AEB:d 10AEF:r 10AF0:n",
  "10B80:d 10B81:r 10B82:d 10B83:r 10B86:d 10B89:r 10B8A:d 10B8C:r 10B8D:d 10B8E:r 10B90:d",
  "10B91:r 10B99:n 10BA9:r 10BAD:d 10BAF:n 10D00:l 10D01:d 10D22:r 10D23:d 10D24:t 10D30:n",
  "10D69:t 10D6E:n 10EAB:t 10EAD:n 10EC2:r 10EC3:d 10EC5:n 10EC6:d 10ED0:n 10EFA:t 10F00:n",
  "10F30:d 10F33:r 10F34:d 10F45:n 10F46:t 10F51:d 10F54:r 10F55:n 10F70:d 10F74:r 10F76:d",
  "10F82:t 10F86:n 10FB0:d 10FB1:n 10FB2:d 10FB4:r 10FB7:n 10FB8:d 10FB9:r 10FBB:d 10FBD:r",
  "10FBE:d 10FC0:n 10FC1:d 10FC2:r 10FC4:d 10FC5:n 10FC9:r 10FCA:d 10FCB:l 10FE0:n 11001:t",
  "11002:n 11038:t 11047:n 11070:t 11071:n 11073:t 11075:n 1107F:t 11082:n 110B3:t 110B7:n",
  "110B9:t 110BB:n 110C2:t 110D0:n 11100:t 11103:n 11127:t 1112C:n 1112D:t 11136:n 11173:t",
  "11174:n 11180:t 11182:n 111B6:t 111BF:n 111C9:t 111CD:n 111CF:t 111D0:n 1122F:t 11232:n",
  "11234:t 11235:n 11236:t 11238:n 1123E:t 1123F:n 11241:t 11280:n 112DF:t 112E0:n 112E3:t",
  "112F0:n 11300:t 11302:n 1133B:t 1133D:n 11340:t 11341:n 11366:t 11380:n 113BB:t 113C2:n",
  "113CE:t 113CF:n 113D0:t 113D1:n 113D2:t 113D3:n 113E1:t 11400:n 11438:t 11440:n 11442:t",
  "11445:n 11446:t 11447:n 1145E:t 1145F:n 114B3:t 114B9:n 114BA:t 114BB:n 114BF:t 114C1:n",
  "114C2:t 114C4:n 115B2:t 115B8:n 115BC:t 115BE:n 115BF:t 115C1:n 115DC:t 11600:n 11633:t",
  "1163B:n 1163D:t 1163E:n 1163F:t 11641:n 116AB:t 116AC:n 116AD:t 116AE:n 116B0:t 116B6:n",
  "116B7:t 116B8:n 1171D:t 1171E:n 1171F:t 11720:n 11722:t 11726:n 11727:t 11730:n 1182F:t",
  "11838:n 11839:t 1183B:n 1193B:t 1193D:n 1193E:t 1193F:n 11943:t 11944:n 119D4:t 119DC:n",
  "119E0:t 119E1:n 11A01:t 11A0B:n 11A33:t 11A39:n 11A3B:t 11A3F:n 11A47:t 11A50:n 11A51:t",
  "11A57:n 11A59:t 11A5C:n 11A8A:t 11A97:n 11A98:t 11A9A:n 11B60:t 11B61:n 11B62:t 11B65:n",
  "11B66:t 11B67:n 11C30:t 11C3E:n 11C3F:t 11C40:n 11C92:t 11CA9:n 11CAA:t 11CB1:n 11CB2:t",
  "11CB4:n 11CB5:t 11D00:n 11D31:t 11D46:n 11D47:t 11D50:n 11D90:t 11D93:n 11D95:t 11D96:n",
  "11D97:t 11D98:n 11EF3:t 11EF5:n 11F00:t 11F02:n 11F36:t 11F3E:n 11F40:t 11F41:n 11F42:t",
  "11F43:n 11F5A:t 11FB0:n 13440:t 13441:n 13447:t 13460:n 1611E:t 1612A:n 1612D:t 16130:n",
  "16AF0:t 16AF5:n 16B30:t 16B37:n 16F4F:t 16F50:n 16F8F:t 16F93:n 16FE4:t 16FF0:n 1BC9D:t",
  "1BC9F:n 1CF00:t 1CF50:n 1D167:t 1D16A:n 1D17B:t 1D183:n 1D185:t 1D18C:n 1D1AA:t 1D1AE:n",
  "1D242:t 1D245:n 1DA00:t 1DA37:n 1DA3B:t 1DA6D:n 1DA75:t 1DA76:n 1DA84:t 1DA85:n 1DA9B:t",
  "1DF00:n 1E000:t 1E100:n 1E130:t 1E137:n 1E2AE:t 1E2C0:n 1E2EC:t 1E2F0:n 1E4EC:t 1E4F0:n",
  "1E5EE:t 1E5F0:n 1E6E3:t 1E6E4:n 1E6E6:t 1E6E7:n 1E6EE:t 1E6F0:n 1E6F5:t 1E6FE:n 1E8D0:t",
  "1E922:d 1E944:t 1E950:n"]

end ObjectStorage.Url.Domain
